import BootMedia.Proofs.Wim.OneSearch

/-!
What a call of the archiver answers. A call goes through six stages, and each of them can fail in
its own way. Main statement: the answer is the error of the first stage that fails, and success if
none does, whatever a run leaves of the tree; the archiver is launched once at most, and it is
looked for once at most.
-/
namespace BootMedia

theorem WaitStatus.isSuccess_iff {s : WaitStatus} : s.isSuccess = true ↔ s = .exited 0 := by
  rw [isSuccess, beq_iff_eq, WaitStatus.ext_iff]
  rfl

theorem Tree.isFile_of_moveFile {t t' : Tree} {directory : Location} {source target : PathText}
    (h : t.moveFile directory source target = .ok t') : t.isFile directory source = true := by
  obtain ⟨outer, name, contents, executable, _, _, hspot, hchild, -⟩ := moveFile_eq_ok h
  simp only [isFile, find, hspot, hchild, Bool.false_eq_true, if_false]

namespace Archiver

variable {aftermath : Aftermath} {program output : PathText} {expected : ExpectedOutput}
  {r : Request} {start ready final ran : Host} {run : Run} {reason : ExtractError}

/-- No file of an earlier run is at the place of the expected one any more: it was removed, or
there was none. -/
inductive OutOfWay (output : PathText) (start : Host) : Host → Prop
  | removed {tree : Tree} (h : start.tree.removeFile start.directory output = .ok tree) :
      OutOfWay output start { start with tree }
  | absent {cause : Fault} (h : start.tree.removeFile start.directory output = .error cause)
      (hcause : cause.isNotFound = true) : OutOfWay output start start

def Ran (aftermath : Aftermath) (program : PathText) (expected : ExpectedOutput) (r : Request)
    (start : Host) (run : Run) (ran : Host) : Prop :=
  ∃ ready, OutOfWay (expected.path r) start ready ∧
    ready.launch program r.destinationDir (arguments start.directory r) aftermath = .ok (run, ran)

/-- The first stage of a call that fails, by the error it fails with: the search for the archiver,
the removal of an earlier file, the start of the program, its end, its output, or the move to the
destination. -/
inductive FirstFailure (aftermath : Aftermath) (expected : ExpectedOutput) (r : Request)
    (start : Host) : Option PathText → ExtractError → Prop
  | unlocated : FirstFailure aftermath expected r start none (.unavailable "7z")
  | blocked {program : PathText} {cause : Fault}
      (hremove : start.tree.removeFile start.directory (expected.path r) = .error cause)
      (hcause : cause.isNotFound = false) :
      FirstFailure aftermath expected r start (some program) (.staleOutput (expected.path r) cause)
  | unstarted {program : PathText} {ready : Host} {cause : Fault}
      (hready : OutOfWay (expected.path r) start ready)
      (hlaunch : ready.launch program r.destinationDir (arguments start.directory r) aftermath =
        .error cause) :
      FirstFailure aftermath expected r start (some program) (.launch program cause)
  | badEnd {program : PathText} {run : Run} {ran : Host}
      (hran : Ran aftermath program expected r start run ran) (hstatus : run.status ≠ .exited 0) :
      FirstFailure aftermath expected r start (some program)
        (.archiverExit program run.status (complaintText run.complaint))
  | noOutput {program : PathText} {run : Run} {ran : Host}
      (hran : Ran aftermath program expected r start run ran) (hstatus : run.status = .exited 0)
      (hfile : ran.isFile (expected.path r) = false) :
      FirstFailure aftermath expected r start (some program) (.missingOutput (expected.path r))
  | notMoved {program : PathText} {run : Run} {ran : Host} {cause : Fault}
      (hran : Ran aftermath program expected r start run ran) (hstatus : run.status = .exited 0)
      (hfile : ran.isFile (expected.path r) = true)
      (hmove : ran.tree.moveFile ran.directory (expected.path r) r.dst = .error cause) :
      FirstFailure aftermath expected r start (some program) (.rename (expected.path r) r.dst cause)

/-- No stage of a call fails. -/
structure Passes (aftermath : Aftermath) (program : PathText) (expected : ExpectedOutput)
    (r : Request) (start : Host) (run : Run) (ran : Host) (tree : Tree) : Prop where
  ended : Ran aftermath program expected r start run ran
  status : run.status = .exited 0
  file : ran.isFile (expected.path r) = true
  moved : ran.tree.moveFile ran.directory (expected.path r) r.dst = .ok tree

section Stages

theorem outOfWay_of_clear (hclear : ((clearStale output).run start).value = .ok ()) :
    OutOfWay output start ((clearStale output).run start).state := by
  rcases clearStale_eq_ok hclear with ⟨tree, hremove, hstate⟩ | ⟨cause, hremove, hcause, hstate⟩
  · rw [hstate]
    exact .removed hremove
  · rw [hstate]
    exact .absent hremove hcause

theorem OutOfWay.clear (h : OutOfWay output start ready) :
    ((clearStale output).run start).value = .ok () ∧
      ((clearStale output).run start).state = ready := by
  cases h with
  | removed hremove => simp only [clearStale, hremove, and_self]
  | absent hremove hcause => simp only [clearStale, hremove, hcause, if_true, and_self]

theorem ran_iff_started :
    Ran aftermath program expected r start run ran ↔
      Started program expected r start run ran aftermath := by
  constructor
  · rintro ⟨ready, hready, hlaunch⟩
    obtain ⟨hclear, rfl⟩ := hready.clear
    exact ⟨hclear, hlaunch⟩
  · intro hstarted
    exact ⟨_, outOfWay_of_clear hstarted.clear, hstarted.launched⟩

theorem run_work_of_clear (program : PathText)
    (hclear : ((clearStale (expected.path r)).run start).value = .ok ()) :
    let later := thenStage (runProgram program r aftermath) (collect (expected.path r) r)
    ((work program expected r aftermath).run start).value =
        (later.run (cleared expected r start)).value ∧
      ((work program expected r aftermath).run start).state =
        (later.run (cleared expected r start)).state :=
  run_thenStage_of_ok hclear

theorem value_work_of_error
    (hclear : ((clearStale (expected.path r)).run start).value = .ok ())
    (hrun : ((runProgram program r aftermath).run (cleared expected r start)).value =
      .error reason) :
    ((work program expected r aftermath).run start).value = .error reason :=
  (run_work_of_clear program hclear).1.trans (run_thenStage_of_error hrun).1

theorem value_work_of_started (hstarted : Started program expected r start run ran aftermath)
    (hstatus : run.status = .exited 0) :
    ((work program expected r aftermath).run start).value =
      ((collect (expected.path r) r).run ran).value := by
  have hlaunch := hstarted.launched
  rw [← directory_cleared expected r start] at hlaunch
  have hrun :
      (runProgram program r aftermath).run (cleared expected r start) = ⟨.ok (), ran, []⟩ := by
    simp only [runProgram, hlaunch, WaitStatus.isSuccess_iff.mpr hstatus, if_true]
  have hok : ((runProgram program r aftermath).run (cleared expected r start)).value = .ok () := by
    rw [hrun]
  rw [(run_work_of_clear program hstarted.clear).1, (run_thenStage_of_ok hok).1, hrun]

/-- Where a stage fails after those before it passed, its error is the answer. -/
theorem FirstFailure.value_work
    (h : FirstFailure aftermath expected r start (some program) reason) :
    ((work program expected r aftermath).run start).value = .error reason := by
  cases h with
  | @blocked _ cause hremove hcause =>
    have hblocked : ((clearStale (expected.path r)).run start).value =
        .error (.staleOutput (expected.path r) cause) := by
      simp only [clearStale, hremove, hcause, Bool.false_eq_true, if_false]
    exact (run_thenStage_of_error hblocked).1
  | unstarted hready hlaunch =>
    obtain ⟨hclear, rfl⟩ := hready.clear
    refine value_work_of_error hclear ?_
    rw [← directory_cleared expected r start] at hlaunch
    simp only [runProgram, cleared] at hlaunch ⊢
    rw [hlaunch]
  | badEnd hran hstatus =>
    have hstarted := ran_iff_started.mp hran
    have hlaunch := hstarted.launched
    rw [← directory_cleared expected r start] at hlaunch
    have hbad := Bool.eq_false_iff.mpr (mt WaitStatus.isSuccess_iff.mp hstatus)
    refine value_work_of_error hstarted.clear ?_
    simp only [runProgram, hlaunch, hbad, Bool.false_eq_true, if_false]
  | noOutput hran hstatus hfile =>
    rw [value_work_of_started (ran_iff_started.mp hran) hstatus]
    simp only [collect, hfile, Bool.not_false, if_true]
  | notMoved hran hstatus hfile hmove =>
    rw [value_work_of_started (ran_iff_started.mp hran) hstatus]
    simp only [collect, hfile, hmove, Bool.not_true, Bool.false_eq_true, if_false]

theorem Passes.value_work {tree : Tree}
    (h : Passes aftermath program expected r start run ran tree) :
    ((work program expected r aftermath).run start).value = .ok () := by
  rw [value_work_of_started (ran_iff_started.mp h.ended) h.status]
  simp only [collect, h.file, h.moved, Bool.not_true, Bool.false_eq_true, if_false]

theorem Ends.firstFailure (h : Ends aftermath program expected r start (.error reason) final) :
    FirstFailure aftermath expected r start (some program) reason := by
  cases h with
  | stale hremove hcause => exact .blocked hremove hcause
  | notStarted hclear hlaunch => exact .unstarted (outOfWay_of_clear hclear) hlaunch
  | failed hstarted hstatus =>
    refine .badEnd (ran_iff_started.mpr hstarted) fun heq => ?_
    exact Bool.noConfusion (hstatus.symm.trans (WaitStatus.isSuccess_iff.mpr heq))
  | missing hstarted hstatus hfile =>
    exact .noOutput (ran_iff_started.mpr hstarted) (WaitStatus.isSuccess_iff.mp hstatus) hfile
  | notMoved hstarted hstatus hfile hmove =>
    exact .notMoved (ran_iff_started.mpr hstarted) (WaitStatus.isSuccess_iff.mp hstatus) hfile hmove

theorem Ends.passes (h : Ends aftermath program expected r start (.ok ()) final) :
    ∃ run ran tree, Passes aftermath program expected r start run ran tree := by
  cases h with
  | moved hstarted hstatus hmove =>
    exact ⟨_, _, _, ran_iff_started.mpr hstarted, WaitStatus.isSuccess_iff.mp hstatus,
      Tree.isFile_of_moveFile hmove, hmove⟩

end Stages

section Calls

variable (aftermath : Aftermath) (locator : Activity Host (Option PathText))
  (expected : ExpectedOutput) (r : Request) (d : Desk)

theorem ends_extract (hfound : ((Desk.executable locator).run d).value = some program) :
    Ends aftermath program expected r ((Desk.executable locator).run d).state.host
      ((extract locator expected r aftermath).run d).value
      ((extract locator expected r aftermath).run d).state.host := by
  obtain ⟨hvalue, hstate⟩ := run_extract_of_some expected r hfound
  rw [hvalue, hstate]
  exact ends_work aftermath program expected r _

theorem extract_eq_error_iff (reason : ExtractError) :
    ((extract locator expected r aftermath).run d).value = .error reason ↔
      FirstFailure aftermath expected r ((Desk.executable locator).run d).state.host
        ((Desk.executable locator).run d).value reason := by
  cases hfound : ((Desk.executable locator).run d).value with
  | none =>
    rw [(run_extract_of_none expected r hfound).1]
    constructor
    · intro heq
      cases heq
      exact .unlocated
    · intro hfirst
      cases hfirst
      rfl
  | some program =>
    constructor
    · intro hfail
      have hends := ends_extract aftermath locator expected r d hfound
      rw [hfail] at hends
      exact hends.firstFailure
    · intro hfirst
      rw [(run_extract_of_some expected r hfound).1]
      exact hfirst.value_work

theorem extract_eq_ok_iff :
    let start := ((Desk.executable locator).run d).state.host
    ((extract locator expected r aftermath).run d).value = .ok () ↔ ∃ program run ran tree,
      ((Desk.executable locator).run d).value = some program ∧
        Passes aftermath program expected r start run ran tree := by
  intro start
  constructor
  · intro hok
    cases hfound : ((Desk.executable locator).run d).value with
    | none =>
      rw [(run_extract_of_none expected r hfound).1] at hok
      nomatch hok
    | some program =>
      have hends := ends_extract aftermath locator expected r d hfound
      rw [hok] at hends
      obtain ⟨run, ran, tree, hpasses⟩ := hends.passes
      exact ⟨program, run, ran, tree, rfl, hpasses⟩
  · rintro ⟨program, run, ran, tree, hfound, hpasses⟩
    rw [(run_extract_of_some expected r hfound).1]
    exact hpasses.value_work

theorem extract_eq_launch_iff (program : PathText) :
    (∃ cause, ((extract locator expected r aftermath).run d).value =
        .error (.launch program cause)) ↔
      ((Desk.executable locator).run d).value = some program ∧ ∃ ready,
        OutOfWay (expected.path r) ((Desk.executable locator).run d).state.host ready ∧
          ready.Hindered program r.destinationDir
            (arguments ((Desk.executable locator).run d).state.host.directory r) := by
  simp only [extract_eq_error_iff, ← Host.launch_fails_iff aftermath]
  constructor
  · rintro ⟨cause, hfirst⟩
    generalize ((Desk.executable locator).run d).value = found at hfirst ⊢
    cases hfirst with
    | unstarted hready hlaunch => exact ⟨rfl, _, hready, cause, hlaunch⟩
  · rintro ⟨hfound, ready, hready, cause, hlaunch⟩
    rw [hfound]
    exact ⟨cause, .unstarted hready hlaunch⟩

theorem launches_extract :
    ((extract locator expected r aftermath).run d).state.host.launches =
        ((Desk.executable locator).run d).state.host.launches ∨
      ∃ launch, ((extract locator expected r aftermath).run d).state.host.launches =
        ((Desk.executable locator).run d).state.host.launches ++ [launch] := by
  cases hfound : ((Desk.executable locator).run d).value with
  | none =>
    rw [(run_extract_of_none expected r hfound).2]
    exact Or.inl rfl
  | some program =>
    have hends := ends_extract aftermath locator expected r d hfound
    rcases hends.launches with hnone | ⟨_, _, -, -, hone⟩
    · exact Or.inl hnone
    · exact Or.inr ⟨_, hone⟩

/-- Where no archiver is located or an earlier file cannot be removed, the host stays as it is. -/
theorem host_extract_of_early {reason : ExtractError}
    (hfail : ((extract locator expected r aftermath).run d).value = .error reason)
    (hearly : reason = .unavailable "7z" ∨ ∃ path cause, reason = .staleOutput path cause) :
    ((extract locator expected r aftermath).run d).state.host =
      ((Desk.executable locator).run d).state.host := by
  cases hfound : ((Desk.executable locator).run d).value with
  | none => rw [(run_extract_of_none expected r hfound).2]
  | some program =>
    have hends := ends_extract aftermath locator expected r d hfound
    rw [hfail] at hends
    generalize ((extract locator expected r aftermath).run d).state.host = final at hends ⊢
    rcases hearly with rfl | ⟨path, cause, rfl⟩
    · nomatch hends
    · cases hends with
      | stale hremove hcause => rfl

end Calls

/-- A call answers with the error of the first stage that fails, and succeeds if none does, in
whatever way a run of the archiver changes the tree. A program that cannot be started is one of
these failures, whatever keeps it from being started. A call launches one program at most, and none
if no archiver is located or an earlier file cannot be removed; over the whole life of a driver,
one search for the archiver is announced at most. -/
theorem extract_decided_by_first_failure (aftermath : Aftermath)
    (locator : Activity Host (Option PathText)) (expected : ExpectedOutput) (r : Request)
    (d : Desk) :
    let found := ((Desk.executable locator).run d).value
    let start := ((Desk.executable locator).run d).state.host
    let result := ((extract locator expected r aftermath).run d).value
    let final := ((extract locator expected r aftermath).run d).state.host
    (∀ reason, result = .error reason ↔ FirstFailure aftermath expected r start found reason) ∧
      (result = .ok () ↔ ∃ program run ran tree,
        found = some program ∧ Passes aftermath program expected r start run ran tree) ∧
      (∀ program, (∃ cause, result = .error (.launch program cause)) ↔
        found = some program ∧ ∃ ready, OutOfWay (expected.path r) start ready ∧
          ready.Hindered program r.destinationDir (arguments start.directory r)) ∧
      (final.launches = start.launches ∨ ∃ launch, final.launches = start.launches ++ [launch]) ∧
      (∀ reason, result = .error reason →
        (reason = .unavailable "7z" ∨ ∃ path cause, reason = .staleOutput path cause) →
        final.launches = start.launches) ∧
      ∀ mark life, (live aftermath (announced mark locator) expected life).run d =
        ⟨(), ((live aftermath locator expected life).run d).state,
          (if d.located.isNone && life.any Moment.isUse then [mark] else []) ++
            ((live aftermath locator expected life).run d).notices⟩ := by
  intro found start result final
  refine ⟨extract_eq_error_iff aftermath locator expected r d,
    extract_eq_ok_iff aftermath locator expected r d,
    extract_eq_launch_iff aftermath locator expected r d,
    launches_extract aftermath locator expected r d, ?_,
    fun mark life => run_live_announced aftermath locator expected d mark life⟩
  intro reason hfail hearly
  exact congrArg Host.launches (host_extract_of_early aftermath locator expected r d hfail hearly)

end Archiver

end BootMedia
