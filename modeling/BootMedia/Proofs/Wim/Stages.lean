import BootMedia.Proofs.Host.Programs
import BootMedia.Wim.Archiver
import Mathlib

/-!
The stages of an extraction by the archiver, one at a time: what each of them did when it
succeeded, and what it left when it failed. Main statements: all work on a request ends in one of
six ways, by the first stage that failed or with the file moved; and whatever the archiver does,
the files of the host stay in order.
-/
namespace BootMedia

def Activity.OnlyLooks {σ α : Type} (x : Activity σ α) : Prop := ∀ s : σ, (x.run s).state = s

def Activity.Keeps {σ α : Type} (P : σ → Prop) (x : Activity σ α) : Prop :=
  ∀ s : σ, P s → P (x.run s).state

def Activity.KeepsOrder {α : Type} (x : Activity Host α) : Prop :=
  ∀ h : Host, h.Sound → (x.run h).state.Sound

namespace Activity

variable {σ α β : Type} {P : σ → Prop}

theorem OnlyLooks.pure (a : α) : (pure a : Activity σ α).OnlyLooks := fun _ => rfl

theorem OnlyLooks.note (n : Notice) : (Activity.note n : Activity σ Unit).OnlyLooks := fun _ => rfl

theorem OnlyLooks.look (f : σ → α) : (Activity.look f).OnlyLooks := fun _ => rfl

theorem OnlyLooks.bind {x : Activity σ α} {f : α → Activity σ β} (hx : x.OnlyLooks)
    (hf : ∀ a, (f a).OnlyLooks) : (x >>= f).OnlyLooks := by
  intro s
  rw [run_bind, hf, hx]

theorem OnlyLooks.keeps {x : Activity σ α} (hx : x.OnlyLooks) : x.Keeps P := by
  intro s hs
  rwa [hx s]

theorem Keeps.pure (a : α) : (pure a : Activity σ α).Keeps P := (OnlyLooks.pure a).keeps

theorem Keeps.note (n : Notice) : (Activity.note n : Activity σ Unit).Keeps P :=
  (OnlyLooks.note n).keeps

theorem Keeps.bind {x : Activity σ α} {f : α → Activity σ β} (hx : x.Keeps P)
    (hf : ∀ a, (f a).Keeps P) : (x >>= f).Keeps P :=
  fun s hs => hf _ _ (hx s hs)

end Activity

theorem ArchiverSearch.onlyLooks_locate (given : Option PathText) :
    (locate given).OnlyLooks := by
  have hsearch : searchHost.OnlyLooks :=
    .bind (.look _) fun found => .bind (.note _) fun _ => .pure found
  cases given with
  | none => exact hsearch
  | some path =>
    refine .bind (.look _) fun found => ?_
    cases found with
    | true => exact .pure (some path)
    | false => exact .bind (.note _) fun _ => hsearch

theorem ArchiverSearch.keepsOrder_locate (given : Option PathText) :
    (locate given).KeepsOrder := (onlyLooks_locate given).keeps

namespace Archiver

variable {aftermath : Aftermath} {h : Host} {output program : PathText} {r : Request}
  {first second : Activity Host (Except ExtractError Unit)}

theorem run_thenStage_of_error {reason : ExtractError}
    (hfirst : (first.run h).value = .error reason) :
    ((thenStage first second).run h).value = .error reason ∧
      ((thenStage first second).run h).state = (first.run h).state := by
  simp only [thenStage, Activity.run_bind, hfirst, Activity.run_pure, and_self]

theorem run_thenStage_of_ok (hfirst : (first.run h).value = .ok ()) :
    ((thenStage first second).run h).value = (second.run (first.run h).state).value ∧
      ((thenStage first second).run h).state = (second.run (first.run h).state).state := by
  simp only [thenStage, Activity.run_bind, hfirst, and_self]

theorem keepsOrder_thenStage (hfirst : first.KeepsOrder) (hsecond : second.KeepsOrder) :
    (thenStage first second).KeepsOrder := by
  refine Activity.Keeps.bind hfirst fun result => ?_
  cases result with
  | error reason => exact .pure _
  | ok _ => exact hsecond

theorem clearStale_eq_ok (hok : ((clearStale output).run h).value = .ok ()) :
    (∃ tree, h.tree.removeFile h.directory output = .ok tree ∧
        ((clearStale output).run h).state = { h with tree }) ∨
      ∃ cause, h.tree.removeFile h.directory output = .error cause ∧ cause.isNotFound = true ∧
        ((clearStale output).run h).state = h := by
  cases hremove : h.tree.removeFile h.directory output with
  | ok tree => exact Or.inl ⟨tree, rfl, by simp only [clearStale, hremove]⟩
  | error cause =>
    by_cases hcause : cause.isNotFound = true
    · exact Or.inr ⟨cause, rfl, hcause, by simp only [clearStale, hremove, hcause, if_true]⟩
    · simp [clearStale, hremove, hcause] at hok

theorem clearStale_eq_error {reason : ExtractError}
    (herror : ((clearStale output).run h).value = .error reason) :
    ∃ cause, h.tree.removeFile h.directory output = .error cause ∧ cause.isNotFound = false ∧
      reason = .staleOutput output cause ∧ ((clearStale output).run h).state = h := by
  cases hremove : h.tree.removeFile h.directory output with
  | ok tree => simp [clearStale, hremove] at herror
  | error cause =>
    by_cases hcause : cause.isNotFound = true
    · simp [clearStale, hremove, hcause] at herror
    · rw [Bool.not_eq_true] at hcause
      simp only [clearStale, hremove, hcause, Bool.false_eq_true, if_false] at herror ⊢
      exact ⟨cause, rfl, hcause, (Except.error.inj herror).symm, trivial⟩

theorem keepsOrder_clearStale : (clearStale output).KeepsOrder := by
  intro h hs
  unfold clearStale
  dsimp only
  cases hremove : h.tree.removeFile h.directory output with
  | ok tree =>
    exact ⟨hs.rooted.removeFile hremove,
      Tree.keepsDirectories_removeFile hremove _ hs.standing⟩
  | error cause =>
    dsimp only
    split
    · exact hs
    · exact hs

theorem runProgram_eq_ok (hok : ((runProgram program r aftermath).run h).value = .ok ()) :
    ∃ run, h.launch program r.destinationDir (arguments h.directory r) aftermath =
        .ok (run, ((runProgram program r aftermath).run h).state) ∧
      run.status.isSuccess = true := by
  cases hlaunch : h.launch program r.destinationDir (arguments h.directory r) aftermath with
  | error cause => simp [runProgram, hlaunch] at hok
  | ok started =>
    obtain ⟨run, after⟩ := started
    by_cases hstatus : run.status.isSuccess = true
    · exact ⟨run, by simp only [runProgram, hlaunch, hstatus, if_true], hstatus⟩
    · simp [runProgram, hlaunch, hstatus] at hok

theorem runProgram_eq_error {reason : ExtractError}
    (herror : ((runProgram program r aftermath).run h).value = .error reason) :
    (∃ cause, h.launch program r.destinationDir (arguments h.directory r) aftermath =
          .error cause ∧
        reason = .launch program cause ∧ ((runProgram program r aftermath).run h).state = h) ∨
      ∃ run, h.launch program r.destinationDir (arguments h.directory r) aftermath =
          .ok (run, ((runProgram program r aftermath).run h).state) ∧
        run.status.isSuccess = false ∧
        reason = .archiverExit program run.status (complaintText run.complaint) := by
  cases hlaunch : h.launch program r.destinationDir (arguments h.directory r) aftermath with
  | error cause =>
    simp only [runProgram, hlaunch] at herror ⊢
    exact Or.inl ⟨cause, rfl, (Except.error.inj herror).symm, trivial⟩
  | ok started =>
    obtain ⟨run, after⟩ := started
    by_cases hstatus : run.status.isSuccess = true
    · simp [runProgram, hlaunch, hstatus] at herror
    · rw [Bool.not_eq_true] at hstatus
      simp only [runProgram, hlaunch, hstatus, Bool.false_eq_true, if_false] at herror ⊢
      exact Or.inr ⟨run, rfl, hstatus, (Except.error.inj herror).symm⟩

theorem keepsOrder_runProgram : (runProgram program r).KeepsOrder := by
  intro h hs
  unfold runProgram
  dsimp only
  cases hlaunch : h.launch program r.destinationDir (arguments h.directory r) with
  | error cause => exact hs
  | ok started =>
    obtain ⟨run, after⟩ := started
    have hafter := hs.launch hlaunch
    dsimp only
    split
    · exact hafter
    · exact hafter

theorem collect_eq_ok (hok : ((collect output r).run h).value = .ok ()) :
    ∃ tree, h.tree.moveFile h.directory output r.dst = .ok tree ∧
      ((collect output r).run h).state = { h with tree } := by
  unfold collect at hok ⊢
  dsimp only at hok ⊢
  split at hok
  · nomatch hok
  · rename_i hfile
    rw [if_neg hfile]
    cases hmove : h.tree.moveFile h.directory output r.dst with
    | error cause =>
      rw [hmove] at hok
      nomatch hok
    | ok tree => exact ⟨tree, rfl, rfl⟩

theorem collect_eq_error {reason : ExtractError}
    (herror : ((collect output r).run h).value = .error reason) :
    ((collect output r).run h).state = h ∧
      (h.isFile output = false ∧ reason = .missingOutput output ∨
        ∃ cause, h.isFile output = true ∧
          h.tree.moveFile h.directory output r.dst = .error cause ∧
          reason = .rename output r.dst cause) := by
  cases hfile : h.isFile output with
  | false =>
    simp only [collect, hfile, Bool.not_false, if_true] at herror ⊢
    exact ⟨trivial, Or.inl ⟨trivial, (Except.error.inj herror).symm⟩⟩
  | true =>
    cases hmove : h.tree.moveFile h.directory output r.dst with
    | ok tree => simp [collect, hfile, hmove] at herror
    | error cause =>
      simp only [collect, hfile, hmove, Bool.not_true, Bool.false_eq_true, if_false] at herror ⊢
      exact ⟨trivial, Or.inr ⟨cause, trivial, rfl, (Except.error.inj herror).symm⟩⟩

theorem keepsOrder_collect : (collect output r).KeepsOrder := by
  intro h hs
  unfold collect
  dsimp only
  split
  · exact hs
  · cases hmove : h.tree.moveFile h.directory output r.dst with
    | error cause => exact hs
    | ok tree =>
      exact ⟨hs.rooted.moveFile hs.standing hmove,
        Tree.keepsDirectories_moveFile hmove _ hs.standing⟩

/-- What the host is like when the archiver is started. -/
def cleared (expected : ExpectedOutput) (r : Request) (start : Host) : Host :=
  ((clearStale (expected.path r)).run start).state

theorem cleared_eq (expected : ExpectedOutput) (r : Request) (start : Host) :
    cleared expected r start = { start with tree := (cleared expected r start).tree } := by
  unfold cleared clearStale
  dsimp only
  split
  · rfl
  · split <;> rfl

@[simp] theorem directory_cleared (expected : ExpectedOutput) (r : Request) (start : Host) :
    (cleared expected r start).directory = start.directory := by rw [cleared_eq]

@[simp] theorem runs_cleared (expected : ExpectedOutput) (r : Request) (start : Host) :
    (cleared expected r start).runs = start.runs := by rw [cleared_eq]

@[simp] theorem launches_cleared (expected : ExpectedOutput) (r : Request) (start : Host) :
    (cleared expected r start).launches = start.launches := by rw [cleared_eq]

@[simp] theorem searchPathEntry_cleared (expected : ExpectedOutput) (r : Request) (start : Host) :
    (cleared expected r start).searchPathEntry = start.searchPathEntry := by
  rw [cleared_eq]
  rfl

/-- The archiver was started for a request and ran to its end. -/
structure Started (program : PathText) (expected : ExpectedOutput) (r : Request) (start : Host)
    (run : Run) (ran : Host) (aftermath : Aftermath := Run.leave) : Prop where
  clear : ((clearStale (expected.path r)).run start).value = .ok ()
  launched : (cleared expected r start).launch program r.destinationDir
    (arguments start.directory r) aftermath = .ok (run, ran)

/-- How the work on a request ends: what it answers, and the host it leaves. In each way but the
last one a stage failed, and those before it did not. -/
inductive Ends (aftermath : Aftermath) (program : PathText) (expected : ExpectedOutput)
    (r : Request) (start : Host) : Except ExtractError Unit → Host → Prop
  | stale {cause : Fault}
      (h : start.tree.removeFile start.directory (expected.path r) = .error cause)
      (hcause : cause.isNotFound = false) :
      Ends aftermath program expected r start (.error (.staleOutput (expected.path r) cause)) start
  | notStarted {cause : Fault} (hclear : ((clearStale (expected.path r)).run start).value = .ok ())
      (h : (cleared expected r start).launch program r.destinationDir
        (arguments start.directory r) aftermath = .error cause) :
      Ends aftermath program expected r start (.error (.launch program cause))
        (cleared expected r start)
  | failed {run : Run} {ran : Host} (hstarted : Started program expected r start run ran aftermath)
      (h : run.status.isSuccess = false) :
      Ends aftermath program expected r start
        (.error (.archiverExit program run.status (complaintText run.complaint))) ran
  | missing {run : Run} {ran : Host} (hstarted : Started program expected r start run ran aftermath)
      (hstatus : run.status.isSuccess = true) (h : ran.isFile (expected.path r) = false) :
      Ends aftermath program expected r start (.error (.missingOutput (expected.path r))) ran
  | notMoved {run : Run} {ran : Host} {cause : Fault}
      (hstarted : Started program expected r start run ran aftermath)
      (hstatus : run.status.isSuccess = true) (hfile : ran.isFile (expected.path r) = true)
      (h : ran.tree.moveFile ran.directory (expected.path r) r.dst = .error cause) :
      Ends aftermath program expected r start (.error (.rename (expected.path r) r.dst cause)) ran
  | moved {run : Run} {ran : Host} {tree : Tree}
      (hstarted : Started program expected r start run ran aftermath)
      (hstatus : run.status.isSuccess = true)
      (h : ran.tree.moveFile ran.directory (expected.path r) r.dst = .ok tree) :
      Ends aftermath program expected r start (.ok ()) { ran with tree }

section Endings

variable {expected : ExpectedOutput} {start : Host}

theorem ends_collect {run : Run} {ran : Host}
    (hstarted : Started program expected r start run ran aftermath)
    (hstatus : run.status.isSuccess = true) :
    Ends aftermath program expected r start ((collect (expected.path r) r).run ran).value
      ((collect (expected.path r) r).run ran).state := by
  rcases hcollect : ((collect (expected.path r) r).run ran).value with reason | _
  · obtain ⟨hstate, ⟨hfile, rfl⟩ | ⟨cause, hfile, hmove, rfl⟩⟩ := collect_eq_error hcollect
    · rw [hstate]
      exact .missing hstarted hstatus hfile
    · rw [hstate]
      exact .notMoved hstarted hstatus hfile hmove
  · obtain ⟨tree, hmove, hstate⟩ := collect_eq_ok hcollect
    rw [hstate]
    exact .moved hstarted hstatus hmove

theorem ends_runProgram (hclear : ((clearStale (expected.path r)).run start).value = .ok ()) :
    let later := thenStage (runProgram program r aftermath) (collect (expected.path r) r)
    Ends aftermath program expected r start (later.run (cleared expected r start)).value
      (later.run (cleared expected r start)).state := by
  intro later
  rcases hrun : ((runProgram program r aftermath).run (cleared expected r start)).value
    with reason | _
  · obtain ⟨hvalue, hlast⟩ := run_thenStage_of_error hrun
    rw [hvalue, hlast]
    rcases runProgram_eq_error hrun with ⟨cause, hlaunch, rfl, hstate⟩ |
      ⟨run, hlaunch, hstatus, rfl⟩
    · rw [directory_cleared] at hlaunch
      rw [hstate]
      exact .notStarted hclear hlaunch
    · rw [directory_cleared] at hlaunch
      exact .failed ⟨hclear, hlaunch⟩ hstatus
  · obtain ⟨hvalue, hlast⟩ := run_thenStage_of_ok hrun
    obtain ⟨run, hlaunch, hstatus⟩ := runProgram_eq_ok hrun
    rw [directory_cleared] at hlaunch
    rw [hvalue, hlast]
    exact ends_collect ⟨hclear, hlaunch⟩ hstatus

theorem ends_work (aftermath : Aftermath) (program : PathText) (expected : ExpectedOutput)
    (r : Request) (start : Host) :
    Ends aftermath program expected r start ((work program expected r aftermath).run start).value
      ((work program expected r aftermath).run start).state := by
  let later := thenStage (runProgram program r aftermath) (collect (expected.path r) r)
  change Ends aftermath program expected r start
    ((thenStage (clearStale (expected.path r)) later).run start).value
    ((thenStage (clearStale (expected.path r)) later).run start).state
  rcases hclear : ((clearStale (expected.path r)).run start).value with reason | _
  · obtain ⟨hvalue, hlast⟩ := run_thenStage_of_error hclear
    obtain ⟨cause, hremove, hcause, rfl, hstate⟩ := clearStale_eq_error hclear
    rw [hvalue, hlast, hstate]
    exact .stale hremove hcause
  · obtain ⟨hvalue, hlast⟩ := run_thenStage_of_ok hclear
    rw [hvalue, hlast]
    exact ends_runProgram hclear

/-- A run is one launch, of the program that is found from the destination directory. -/
theorem Started.launches {run : Run} {ran : Host}
    (hstarted : Started program expected r start run ran aftermath) :
    ∃ location inside,
      (cleared expected r start).tree.findDirectory start.directory r.destinationDir =
        .ok inside ∧
      (cleared expected r start).resolveProgram inside program = .ok location ∧
      ran.launches = start.launches ++ [⟨location, inside, arguments start.directory r⟩] := by
  obtain ⟨location, inside, hinside, hlocation, -, rfl⟩ := Host.launch_eq_ok hstarted.launched
  rw [directory_cleared] at hinside
  exact ⟨location, inside, hinside, hlocation, by rw [launches_cleared]⟩

theorem Ends.launches {result : Except ExtractError Unit} {final : Host}
    (hends : Ends aftermath program expected r start result final) :
    final.launches = start.launches ∨ ∃ location inside,
      (cleared expected r start).tree.findDirectory start.directory r.destinationDir =
        .ok inside ∧
      (cleared expected r start).resolveProgram inside program = .ok location ∧
      final.launches = start.launches ++ [⟨location, inside, arguments start.directory r⟩] := by
  cases hends with
  | stale hremove hcause => exact Or.inl rfl
  | notStarted hclear hlaunch => exact Or.inl (launches_cleared expected r start)
  | failed hstarted hstatus => exact Or.inr hstarted.launches
  | missing hstarted hstatus hfile => exact Or.inr hstarted.launches
  | notMoved hstarted hstatus hfile hmove => exact Or.inr hstarted.launches
  | moved hstarted hstatus hmove => exact Or.inr hstarted.launches

theorem Ends.launches_of_started {result : Except ExtractError Unit} {final : Host}
    (hends : Ends aftermath program expected r start result final) {run : Run} {ran : Host}
    (hstarted : Started program expected r start run ran aftermath) :
    final.launches = ran.launches := by
  have hsame {run' : Run} {ran' : Host}
      (hother : Started program expected r start run' ran' aftermath) :
      ran'.launches = ran.launches := by
    have heq := hother.launched.symm.trans hstarted.launched
    cases heq
    rfl
  cases hends with
  | stale hremove hcause =>
    rcases clearStale_eq_ok hstarted.clear with ⟨tree, hremoved, -⟩ | ⟨cause, hnone, hmissing, -⟩
    · rw [hremove] at hremoved
      nomatch hremoved
    · rw [hremove] at hnone
      cases hnone
      exact absurd hmissing (Bool.eq_false_iff.mp hcause)
  | notStarted hclear hlaunch =>
    rw [hstarted.launched] at hlaunch
    nomatch hlaunch
  | failed hother hstatus => exact hsame hother
  | missing hother hstatus hfile => exact hsame hother
  | notMoved hother hstatus hfile hmove => exact hsame hother
  | moved hother hstatus hmove =>
    have hmoved := hsame hother
    exact hmoved

end Endings

theorem work_eq_ok {expected : ExpectedOutput}
    (hok : ((work program expected r).run h).value = .ok ()) :
    ∃ run ran tree, Started program expected r h run ran ∧ run.status.isSuccess = true ∧
      ran.tree.moveFile ran.directory (expected.path r) r.dst = .ok tree ∧
      ((work program expected r).run h).state = { ran with tree } := by
  have hends := ends_work Run.leave program expected r h
  rw [hok] at hends
  generalize ((work program expected r).run h).state = final at hends ⊢
  cases hends with
  | moved hstarted hstatus hmove => exact ⟨_, _, _, hstarted, hstatus, hmove, rfl⟩

theorem keepsOrder_work (program : PathText) (expected : ExpectedOutput) (r : Request) :
    (work program expected r).KeepsOrder :=
  Activity.Keeps.bind (.note _) fun _ => Activity.Keeps.bind (.note _) fun _ =>
    keepsOrder_thenStage keepsOrder_clearStale
      (keepsOrder_thenStage keepsOrder_runProgram keepsOrder_collect)

section Calls

variable {locator : Activity Host (Option PathText)} {expected : ExpectedOutput}

theorem run_extract_of_none (expected : ExpectedOutput) (r : Request) {d : Desk}
    (hfound : ((Desk.executable locator).run d).value = none) :
    ((extract locator expected r aftermath).run d).value = .error (.unavailable name) ∧
      ((extract locator expected r aftermath).run d).state =
        ((Desk.executable locator).run d).state := by
  simp only [extract, Activity.run_bind, hfound, Activity.run_pure, and_self]

theorem run_extract_of_some (expected : ExpectedOutput) (r : Request) {d : Desk}
    (hfound : ((Desk.executable locator).run d).value = some program) :
    let start := ((Desk.executable locator).run d).state.host
    ((extract locator expected r aftermath).run d).value =
        ((work program expected r aftermath).run start).value ∧
      ((extract locator expected r aftermath).run d).state.host =
        ((work program expected r aftermath).run start).state := by
  simp only [extract, Activity.run_bind, hfound, atHost, Activity.run_within, and_self]

theorem extract_eq_ok {d : Desk} (hok : ((extract locator expected r).run d).value = .ok ()) :
    ∃ program, ((work program expected r).run
        ((Desk.executable locator).run d).state.host).value = .ok () ∧
      ((extract locator expected r).run d).state.host =
        ((work program expected r).run ((Desk.executable locator).run d).state.host).state := by
  cases hfound : ((Desk.executable locator).run d).value with
  | none =>
    rw [(run_extract_of_none expected r hfound).1] at hok
    nomatch hok
  | some program =>
    obtain ⟨hvalue, hstate⟩ := run_extract_of_some expected r hfound
    exact ⟨program, hvalue.symm.trans hok, hstate⟩

theorem host_executable (hlocator : locator.OnlyLooks) (d : Desk) :
    ((Desk.executable locator).run d).state.host = d.host := by
  unfold Desk.executable
  dsimp only
  split
  · rfl
  · exact hlocator d.host

theorem sound_executable (hlocator : locator.KeepsOrder) {d : Desk} (hd : d.host.Sound) :
    ((Desk.executable locator).run d).state.host.Sound := by
  unfold Desk.executable
  dsimp only
  split
  · exact hd
  · exact hlocator d.host hd

/-- The files of the host stay in order through a call, also one that fails. -/
theorem sound_extract (hlocator : locator.KeepsOrder) {d : Desk} (hd : d.host.Sound)
    (r : Request) : ((extract locator expected r).run d).state.host.Sound := by
  have hknown := sound_executable hlocator hd
  cases hfound : ((Desk.executable locator).run d).value with
  | none => exact (run_extract_of_none expected r hfound).2 ▸ hknown
  | some program =>
    rw [(run_extract_of_some expected r hfound).2]
    exact keepsOrder_work program expected r _ hknown

/-- What calls leave behind, one after the other, whether they succeed or not. -/
def afterCalls (locator : Activity Host (Option PathText)) (expected : ExpectedOutput)
    (calls : List Request) (d : Desk) : Desk :=
  calls.foldl (fun d r => ((extract locator expected r).run d).state) d

theorem sound_afterCalls (hlocator : locator.KeepsOrder) (calls : List Request) {d : Desk}
    (hd : d.host.Sound) : (afterCalls locator expected calls d).host.Sound := by
  induction calls generalizing d with
  | nil => exact hd
  | cons r calls ih => exact ih (sound_extract hlocator hd r)

end Calls

end Archiver

end BootMedia
