import BootMedia.Proofs.Wim.ProbingRounds
import BootMedia.Proofs.Wim.Stages
import Mathlib

/-!
What looking again reports while the host changes. An extractor keeps what it found the host to
support until it is told to look again, but the archiver is looked for only once. Main statement:
looking again reports the host as it was when an operation first looked at it, so that the report
is right exactly if the search for the archiver would end in the same way now.
-/
namespace BootMedia

/-- Something that happens between two moments: the extractor is used, or the host becomes another
one. -/
inductive Happening
  | used (op : Operation)
  | changed (host : Host)

def Operation.needsHost (op : Operation) : Bool := op.isReprobe || op.looks

/-- The host at the first operation that looks at it; none if no operation does. -/
def Happening.firstLook : Host → List Happening → Option Host
  | _, [] => none
  | host, .used op :: rest => if op.needsHost then some host else firstLook host rest
  | _, .changed host :: rest => firstLook host rest

namespace Extractor

section Invariants

variable {σ : Type} {P : σ → Prop} {e : Extractor σ}

/-- Neither the backends of an extractor nor what it does after a success break an invariant. -/
structure Keeps (P : σ → Prop) (e : Extractor σ) : Prop where
  probe : ∀ b ∈ e.backends, b.probe.Keeps P
  extract : ∀ b ∈ e.backends, ∀ r, (b.extract r).Keeps P
  complete : e.onComplete.Keeps P

theorem keeps_inWorld {α : Type} {x : Activity σ α} (hx : x.Keeps P) :
    (Session.inWorld x).Keeps fun s => P s.world := fun s hs => hx s.world hs

theorem keeps_probeAll {bs : List (Backend σ)} (hbs : ∀ b ∈ bs, b.probe.Keeps P) :
    (probeAll bs).Keeps P := by
  induction bs with
  | nil => exact .pure []
  | cons b rest ih =>
    have hrest := ih fun other hother => hbs other (List.mem_cons_of_mem b hother)
    exact .bind (hbs b List.mem_cons_self) fun _ => .bind hrest fun _ => .pure _

theorem keeps_tryInTurn (r : Request) {bs : List (Backend σ × Bool)}
    (hbs : ∀ b ∈ bs, (b.1.extract r).Keeps P) : (tryInTurn r bs).Keeps P := by
  induction bs with
  | nil => exact .pure false
  | cons b rest ih =>
    obtain ⟨b, usable⟩ := b
    have hrest := ih fun other hother => hbs other (List.mem_cons_of_mem _ hother)
    cases usable with
    | false => exact hrest
    | true =>
      refine .bind (hbs (b, true) List.mem_cons_self) fun answer => ?_
      cases answer with
      | ok _ => exact .pure true
      | error reason => exact .bind (.note _) fun _ => hrest

theorem Keeps.reprobe (he : e.Keeps P) : e.reprobe.Keeps fun s => P s.world :=
  .bind (keeps_inWorld (keeps_probeAll he.probe)) fun _ =>
    .bind (.note _) fun _ => .bind (fun _ hs => hs) fun _ => .pure _

theorem Keeps.capabilities (he : e.Keeps P) : e.capabilities.Keeps fun s => P s.world := by
  refine .bind (Activity.OnlyLooks.look _).keeps fun snapshot => ?_
  cases snapshot with
  | none => exact he.reprobe
  | some known => exact .pure known

theorem Keeps.carryOut (he : e.Keeps P) (r : Request) (known : Capabilities) :
    (e.carryOut r known).Keeps fun s => P s.world := by
  unfold Extractor.carryOut
  cases known.any with
  | false => exact .pure _
  | true =>
    have htries : (tryInTurn r (e.backends.zip (known.entries.map (·.2)))).Keeps P := by
      refine keeps_tryInTurn r fun b hb => ?_
      exact he.extract b.1 (List.of_mem_zip hb).1 r
    refine .bind (keeps_inWorld htries) fun succeeded => ?_
    cases succeeded with
    | true => exact .bind (keeps_inWorld he.complete) fun _ => .pure _
    | false => exact .pure _

theorem Keeps.perform (he : e.Keeps P) (op : Operation) :
    (e.perform op).Keeps fun s => P s.world := by
  cases op with
  | capabilities => exact .bind he.capabilities fun _ => .pure _
  | reprobe => exact .bind he.reprobe fun _ => .pure _
  | extract r =>
    refine .bind ?_ fun _ => .pure _
    unfold Extractor.extract
    cases r.validate with
    | error reason => exact .pure _
    | ok _ => exact .bind he.capabilities fun known => he.carryOut r known

end Invariants

section Remembering

variable (config : Config) (tempDir : PathText)

/-- What the search for the archiver finds on a host. -/
def archiverOn (config : Config) (host : Host) : Option PathText :=
  ((ArchiverSearch.locate config.archiver).run host).value

def newReport (host : Host) : Capabilities :=
  ((ofConfig config tempDir).capabilities.run (Session.fresh ⟨host, none⟩)).value

def happen (s : Session Desk) : Happening → Session Desk
  | .used op => (((ofConfig config tempDir).perform op).run s).state
  | .changed host => { s with world := { s.world with host } }

theorem keeps_located (found : Option PathText) :
    (ofConfig config tempDir).Keeps fun d => d.located = some found := by
  have hexecutable : (Desk.executable (ArchiverSearch.locate config.archiver)).Keeps
      fun d => d.located = some found := by
    intro d hd
    simp only [Desk.executable, hd]
  have harchiver (r : Request) :
      (Archiver.extract (ArchiverSearch.locate config.archiver) config.expectedOutput r).Keeps
        fun d => d.located = some found := by
    refine .bind hexecutable fun program => ?_
    cases program with
    | none => exact .pure _
    | some program => exact fun d hd => hd
  refine ⟨fun b hb => ?probe, fun b hb r => ?extract, .pure ()⟩
  case probe =>
    rcases List.mem_pair.mp hb with rfl | rfl
    · exact .bind hexecutable fun _ => .pure _
    · exact fun d hd => hd
  case extract =>
    rcases List.mem_pair.mp hb with rfl | rfl
    · exact harchiver r
    · exact fun d hd => hd

theorem located_foldl_happen {found : Option PathText} (happenings : List Happening)
    {s : Session Desk} (hs : s.world.located = some found) :
    (happenings.foldl (happen config tempDir) s).world.located = some found := by
  induction happenings generalizing s with
  | nil => exact hs
  | cons first rest ih =>
    cases first with
    | used op => exact ih ((keeps_located config tempDir found).perform op s hs)
    | changed host => exact ih hs

theorem located_perform (host : Host) {op : Operation} (hop : op.needsHost = true) :
    (((ofConfig config tempDir).perform op).run (Session.fresh ⟨host, none⟩)).state.world.located =
      some (archiverOn config host) := by
  cases op with
  | capabilities => rfl
  | reprobe => rfl
  | extract r =>
    have hr : r.InOrder := of_decide_eq_true hop
    have hvalid := Request.validate_eq_ok hr.1 hr.2.1 hr.2.2
    have hrun := run_extract_of_valid (ofConfig config tempDir) hvalid
      (Session.fresh ⟨host, none⟩)
    have hkeeps := (keeps_located config tempDir (archiverOn config host)).carryOut r
    simp only [perform, Activity.run_bind, Activity.run_pure, hrun]
    exact hkeeps _ _ rfl

theorem state_perform_of_not_needsHost {op : Operation} (hop : op.needsHost = false)
    (s : Session Desk) : (((ofConfig config tempDir).perform op).run s).state = s := by
  cases op with
  | capabilities => nomatch hop
  | reprobe => nomatch hop
  | extract r =>
    have hr : ¬ r.InOrder := of_decide_eq_false hop
    obtain ⟨what, hrun⟩ := run_extract_of_not_inOrder (ofConfig config tempDir) hr s
    simp only [perform, Activity.run_bind, Activity.run_pure, hrun]

/-- What is remembered is what was found on the host of the first look. -/
theorem located_after (host : Host) (happenings : List Happening) :
    (happenings.foldl (happen config tempDir) (Session.fresh ⟨host, none⟩)).world.located =
      (Happening.firstLook host happenings).map (archiverOn config) := by
  -- Up to the first look the session is a fresh one, on whatever host there is then.
  induction happenings generalizing host with
  | nil => rfl
  | cons first rest ih =>
    cases first with
    | changed other => exact ih other
    | used op =>
      by_cases hop : op.needsHost = true
      · rw [Happening.firstLook, if_pos hop]
        exact located_foldl_happen config tempDir rest (located_perform config tempDir host hop)
      · rw [Happening.firstLook, if_neg hop]
        rw [Bool.not_eq_true] at hop
        have hsame := state_perform_of_not_needsHost config tempDir hop
          (Session.fresh ⟨host, none⟩)
        rw [List.foldl_cons, happen, hsame]
        exact ih host

theorem newReport_eq (host : Host) :
    newReport config tempDir host =
      ⟨[(Archiver.name, (archiverOn config host).isSome), (ImagingApi.name, false)]⟩ := rfl

theorem value_reprobe (s : Session Desk) :
    ((ofConfig config tempDir).reprobe.run s).value =
      ⟨[(Archiver.name, (s.world.located.getD (archiverOn config s.world.host)).isSome),
        (ImagingApi.name, false)]⟩ := by
  obtain ⟨snapshot, host, located⟩ := s
  cases located with
  | none => rfl
  | some found => rfl

/-- Whatever happened since an extractor was made, looking again reports what a new extractor would
have reported on the host of the first look, and on the present one if there was none. This is
right for the present host exactly if the archiver is found on both hosts or on neither. -/
theorem reprobe_reports_first_look (host : Host) (happenings : List Happening) :
    let s := happenings.foldl (happen config tempDir) (Session.fresh ⟨host, none⟩)
    let seen := (Happening.firstLook host happenings).getD s.world.host
    let report := ((ofConfig config tempDir).reprobe.run s).value
    report = newReport config tempDir seen ∧
      (report = newReport config tempDir s.world.host ↔
        (archiverOn config seen).isSome = (archiverOn config s.world.host).isSome) := by
  intro s seen report
  have hlocated : s.world.located = (Happening.firstLook host happenings).map (archiverOn config) :=
    located_after config tempDir host happenings
  have hreport : report = newReport config tempDir seen := by
    rw [newReport_eq]
    refine (value_reprobe config tempDir s).trans ?_
    rw [hlocated, Option.getD_map]
  refine ⟨hreport, ?_⟩
  rw [hreport, newReport_eq, newReport_eq]
  simp

/-- Looking again may not see that the archiver has gone. -/
theorem reprobe_may_miss_change :
    ¬ ∀ (config : Config) (tempDir : PathText) (host : Host) (happenings : List Happening),
      let s := happenings.foldl (happen config tempDir) (Session.fresh ⟨host, none⟩)
      ((ofConfig config tempDir).reprobe.run s).value = newReport config tempDir s.world.host := by
  intro hclaim
  let installed : Host := ⟨Tree.empty.put [['a']] (.file [] true), [], none,
    fun _ => ⟨[], .exited 0, []⟩, []⟩
  let removed : Host := { installed with tree := Tree.empty }
  have hsame := hclaim ⟨some ['/', 'a'], .sourceName⟩ ImagingApi.defaultTempDir installed
    [.used .capabilities, .changed removed]
  exact absurd hsame (by decide +kernel)

end Remembering

end Extractor

end BootMedia
