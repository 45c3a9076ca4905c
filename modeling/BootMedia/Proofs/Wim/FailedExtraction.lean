import BootMedia.Proofs.Wim.Stages
import Mathlib

/-!
What a failed extraction does to a file that was at the destination. The archiver leaves the
expected file next to the destination, and a file of that name is removed before it is started.
Main statement: the old file stays as it was, unless it was itself the expected file of an archiver
that is known, under whatever spelling of its path.
-/
namespace BootMedia.Archiver

variable {program : PathText} {expected : ExpectedOutput} {r : Request} {start final : Host}
  {place : Location} {contents : Bytes} {executable : Bool}

/-- A file stands at a place to which the path of the expected file leads. -/
def ExpectedAt (expected : ExpectedOutput) (r : Request) (start : Host) (place : Location) : Prop :=
  ∃ contents executable,
    start.tree.find start.directory (expected.path r) = .ok (place, .file contents executable)

/-- The run of the archiver for a request would write nothing to a place. -/
def Spares (expected : ExpectedOutput) (r : Request) (start : Host) (place : Location) : Prop :=
  ∀ inside,
    (cleared expected r start).tree.findDirectory start.directory r.destinationDir = .ok inside →
    Effect.lastWrite inside (cleared expected r start).tree
      (start.runs start.launches.length).effects place = none

section Clearing

theorem cleared_of_removeFile {tree : Tree}
    (h : start.tree.removeFile start.directory (expected.path r) = .ok tree) :
    cleared expected r start = { start with tree } := by
  simp only [cleared, clearStale, h]

theorem cleared_of_error {cause : Fault}
    (h : start.tree.removeFile start.directory (expected.path r) = .error cause) :
    cleared expected r start = start := by
  simp only [cleared, clearStale, h]
  split <;> rfl

theorem withoutFile_cleared (expected : ExpectedOutput) (r : Request) (start : Host) :
    start.tree.WithoutFile start.directory (expected.path r) (cleared expected r start).tree := by
  cases hremove : start.tree.removeFile start.directory (expected.path r) with
  | ok tree =>
    rw [cleared_of_removeFile hremove]
    exact Tree.withoutFile_of_removeFile hremove
  | error cause =>
    rw [cleared_of_error hremove]
    exact .same

theorem keepsDirectories_cleared (expected : ExpectedOutput) (r : Request) (hs : start.Sound) :
    start.tree.KeepsDirectories (cleared expected r start).tree :=
  ((withoutFile_cleared expected r start).keeps hs.rooted hs.standing).2

theorem get?_cleared_of_not_expectedAt (hplace : ¬ ExpectedAt expected r start place) :
    (cleared expected r start).tree.get? place = start.tree.get? place := by
  have hcleared := withoutFile_cleared expected r start
  generalize (cleared expected r start).tree = ready at hcleared ⊢
  cases hcleared with
  | same => rfl
  | gone hfile hgone hrest =>
    refine hrest ?_
    rintro rfl
    exact hplace ⟨_, _, hfile⟩

end Clearing

/-- How the host a failed call leaves compares to the one it started from: directories are kept,
and at a place that the archiver spares only the removal of the expected file shows. -/
structure LeftBehind (expected : ExpectedOutput) (r : Request) (start : Host) (place : Location)
    (final : Host) : Prop where
  rooted : final.tree.Rooted
  directory : final.directory = start.directory
  keeps : start.tree.KeepsDirectories final.tree
  file_iff : ∀ contents executable,
    final.tree.get? place = some (.file contents executable) ↔
      (cleared expected r start).tree.get? place = some (.file contents executable)

theorem leftBehind_cleared (expected : ExpectedOutput) (r : Request) (place : Location)
    (hs : start.Sound) : LeftBehind expected r start place (cleared expected r start) where
  rooted := (keepsOrder_clearStale start hs).rooted
  directory := directory_cleared expected r start
  keeps := keepsDirectories_cleared expected r hs
  file_iff _ _ := Iff.rfl

theorem Started.leftBehind (hs : start.Sound) (hspares : Spares expected r start place) {run : Run}
    {ran : Host} (hstarted : Started program expected r start run ran) :
    LeftBehind expected r start place ran := by
  have hready : (cleared expected r start).Sound := keepsOrder_clearStale start hs
  obtain ⟨_, inside, hinside, -, hrun, rfl⟩ := Host.launch_eq_ok hstarted.launched
  obtain ⟨-, hdirectory⟩ := Tree.enter_of_findDirectory hinside
  rw [directory_cleared] at hinside
  rw [runs_cleared, launches_cleared] at hrun
  obtain ⟨hrooted, hkeeps⟩ := Effect.foldl_apply_rooted hready.rooted hdirectory run.effects
  have hspared := hspares inside hinside
  rw [← hrun] at hspared
  exact {
    rooted := hrooted
    directory := directory_cleared expected r start
    keeps := (keepsDirectories_cleared expected r hs).trans hkeeps
    file_iff := fun _ _ => Effect.file_effects_iff hready.rooted hdirectory hspared }

theorem Ends.leftBehind (hs : start.Sound) (hspares : Spares expected r start place)
    {reason : ExtractError}
    (hends : Ends Run.leave program expected r start (.error reason) final) :
    LeftBehind expected r start place final := by
  cases hends with
  | stale hremove hcause =>
    have hcleared := leftBehind_cleared expected r place hs
    rwa [cleared_of_error hremove] at hcleared
  | notStarted hclear hlaunch => exact leftBehind_cleared expected r place hs
  | failed hstarted hstatus => exact hstarted.leftBehind hs hspares
  | missing hstarted hstatus hfile => exact hstarted.leftBehind hs hspares
  | notMoved hstarted hstatus hfile hmove => exact hstarted.leftBehind hs hspares

/-- A call that fails leaves the file at the destination as it was, unless it is the expected file
and an archiver is known. -/
theorem failed_extract_destination (locator : Activity Host (Option PathText))
    (expected : ExpectedOutput) (r : Request) (d : Desk) (hlocator : locator.OnlyLooks)
    (hd : d.host.Sound) {place : Location} {contents : Bytes} {executable : Bool}
    (hfile : d.host.tree.find d.host.directory r.dst = .ok (place, .file contents executable))
    (hspares : Spares expected r d.host place) {reason : ExtractError}
    (hfail : ((extract locator expected r).run d).value = .error reason) :
    let final := ((extract locator expected r).run d).state.host
    let known := ((Desk.executable locator).run d).value.isSome
    ¬ (known = true ∧ ExpectedAt expected r d.host place) →
      final.tree.find final.directory r.dst = .ok (place, .file contents executable) := by
  intro final known hkept
  have hhost := host_executable hlocator d
  cases hfound : ((Desk.executable locator).run d).value with
  | none =>
    have hfinal : final = d.host := by
      rw [← hhost]
      exact congrArg Desk.host (run_extract_of_none expected r hfound).2
    rw [hfinal]
    exact hfile
  | some program =>
    have hother : ¬ ExpectedAt expected r d.host place := by
      intro hplace
      exact hkept ⟨by simp only [known, hfound, Option.isSome_some], hplace⟩
    obtain ⟨hvalue, hstate⟩ := run_extract_of_some expected r hfound
    rw [hhost] at hvalue hstate
    have hends := ends_work Run.leave program expected r d.host
    rw [← hvalue, ← hstate, hfail] at hends
    have hleft : LeftBehind expected r d.host place final := hends.leftBehind hd hspares
    -- Directories are kept, so the destination still leads to the place where the old file was.
    obtain ⟨outer, name, rfl, -, hchild⟩ := (Tree.find_eq_file hd.rooted hd.standing).mp hfile
    rw [hleft.directory]
    refine hd.rooted.find_file hleft.rooted hleft.keeps hd.standing hfile ?_
    rw [hleft.file_iff, get?_cleared_of_not_expectedAt hother]
    exact (Tree.child_eq_ok hchild).1

section Cases

def hostWith (name : Name) (run : Run) : Host where
  tree := ((Tree.empty.put [['w']] .directory).put [['7', 'z'], ['w']] (.file [] true)).put
    [name, ['w']] (.file [1] false)
  directory := [['w']]
  searchPath := none
  runs := fun _ => run
  launches := []

theorem sound_hostWith (name : Name) (run : Run) : (hostWith name run).Sound := by
  have hdirectory : (Tree.empty.put [['w']] .directory).Rooted :=
    Tree.rooted_empty.put rfl fun _ => rfl
  have hprogram : ((Tree.empty.put [['w']] .directory).put [['7', 'z'], ['w']]
      (.file [] true)).Rooted := hdirectory.put rfl nofun
  have hfree : ((Tree.empty.put [['w']] .directory).put [['7', 'z'], ['w']]
      (.file [] true)).get? [name, ['w']] ≠ some .directory := by
    rw [Tree.get?_put _ (List.cons_ne_nil _ _)]
    by_cases hname : [name, ['w']] = [['7', 'z'], ['w']]
    · simp [hname]
    · rw [if_neg hname, Tree.get?_put _ (List.cons_ne_nil _ _)]
      simp [Tree.empty, Tree.get?]
  refine ⟨hprogram.put rfl fun hfull => absurd hfull hfree, ?_⟩
  exact Tree.keepsDirectories_put (List.cons_ne_nil name [['w']])
    (fun hfull => absurd hfull hfree) [['w']] rfl

/-- The archiver writes the expected file and fails; an old file of another name is still there. -/
theorem failed_extract_destination_other_name :
    let host := hostWith ['b'] ⟨[.writeFile ['a'] [2]], .exited 2, []⟩
    let locator := ArchiverSearch.locate (some ['/', 'w', '/', '7', 'z'])
    let r : Request := ⟨['i'], 1, ['W', '\\', 'a'], ['b']⟩
    let after := ((extract locator .sourceName r).run ⟨host, none⟩).state.host
    locator.OnlyLooks ∧ host.Sound ∧ Spares .sourceName r host [['b'], ['w']] ∧
      after.tree.get? [['a'], ['w']] = some (.file [2] false) ∧
      after.tree.find after.directory ['b'] = .ok ([['b'], ['w']], .file [1] false) := by
  intro host locator r after
  have hlocator : locator.OnlyLooks := ArchiverSearch.onlyLooks_locate _
  have hhost : host.Sound := sound_hostWith _ _
  have hready : (cleared .sourceName r host).tree.findDirectory host.directory r.destinationDir =
      .ok [['w']] := by decide +kernel
  have hspares : Spares .sourceName r host [['b'], ['w']] := by
    intro inside hinside
    obtain rfl := Except.ok.inj (hready.symm.trans hinside)
    decide +kernel
  have hother : ¬ ExpectedAt .sourceName r host [['b'], ['w']] := by
    rintro ⟨contents, executable, hfind⟩
    have hmissing : host.tree.find host.directory (ExpectedOutput.sourceName.path r) =
        .error Fault.noEntry := by decide +kernel
    rw [hmissing] at hfind
    nomatch hfind
  have hfail : ((extract locator .sourceName r).run ⟨host, none⟩).value =
      .error (.archiverExit ['/', 'w', '/', '7', 'z'] (.exited 2) "") := by decide +kernel
  have hwritten : after.tree.get? [['a'], ['w']] = some (.file [2] false) := by decide +kernel
  have hkept := failed_extract_destination locator .sourceName r ⟨host, none⟩ hlocator hhost rfl
    hspares hfail
  exact ⟨hlocator, hhost, hspares, hwritten, hkept fun hboth => hother hboth.2⟩

/-- A call that fails may take the file at the destination away: here the file to extract has the
name of the destination, and the archiver fails without having written anything. -/
theorem failed_extract_may_lose_destination :
    ¬ ∀ (given : Option PathText) (expected : ExpectedOutput) (r : Request) (d : Desk)
        (place : Location) (contents : Bytes) (executable : Bool) (reason : ExtractError),
      d.host.Sound →
      d.host.tree.find d.host.directory r.dst = .ok (place, .file contents executable) →
      Spares expected r d.host place →
      ((extract (ArchiverSearch.locate given) expected r).run d).value = .error reason →
      let final := ((extract (ArchiverSearch.locate given) expected r).run d).state.host
      final.tree.find final.directory r.dst = .ok (place, .file contents executable) := by
  intro hclaim
  have hkept := hclaim (some ['/', 'w', '/', '7', 'z']) .sourceName
    ⟨['i'], 1, ['W', '\\', 'a'], ['a']⟩ ⟨hostWith ['a'] ⟨[], .exited 2, []⟩, none⟩
    [['a'], ['w']] [1] false (.archiverExit ['/', 'w', '/', '7', 'z'] (.exited 2) "")
    (sound_hostWith _ _) rfl (fun _ _ => rfl) (by decide +kernel)
  exact absurd hkept (by decide +kernel)

end Cases

end BootMedia.Archiver
