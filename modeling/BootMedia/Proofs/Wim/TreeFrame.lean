import BootMedia.Proofs.Wim.FailedExtraction
import BootMedia.Proofs.Wim.FirstFailure

/-!
What a call of the archiver changes, apart from what the archiver itself changes. Before the
archiver is started, at most the file at the place of the expected one is removed; afterwards, at
most that file is moved. Main statement: everything else stands as the archiver left it, and where
a call fails nothing but that first removal was done.
-/
namespace BootMedia.Archiver

variable {program : PathText} {expected : ExpectedOutput} {r : Request} {start final ran : Host}
  {run : Run} {ready left : Tree} {result : Except ExtractError Unit}

/-- What the archiver makes of a tree, and the programs launched by then: if it is started, it
runs in the destination directory as the next program, and nobody else changes anything. -/
inductive LeftByArchiver (r : Request) (start : Host) (ready : Tree) : List Launch → Tree → Prop
  | idle : LeftByArchiver r start ready start.launches ready
  | worked {location inside : Location}
      (hinside : ready.findDirectory start.directory r.destinationDir = .ok inside) :
      LeftByArchiver r start ready
        (start.launches ++ [⟨location, inside, arguments start.directory r⟩])
        ((start.runs start.launches.length).effects.foldl (Effect.apply inside) ready)

/-- How a call changes the host around the run of the archiver, which finds one tree and leaves
another one. -/
structure Framed (expected : ExpectedOutput) (r : Request) (start : Host)
    (result : Except ExtractError Unit) (final : Host) (ready left : Tree) : Prop where
  cleared : start.tree.WithoutFile start.directory (expected.path r) ready
  worked : LeftByArchiver r start ready final.launches left
  failed : ∀ reason, result = .error reason → final.tree = left
  started : result = .ok () → final.launches ≠ start.launches
  moved : result = .ok () → ∃ place goal contents executable,
    left.Moved start.directory (expected.path r) r.dst final.tree place goal contents executable ∧
      ∀ earlier, ExpectedAt expected r start earlier → earlier = place
  rest : final = { start with tree := final.tree, launches := final.launches }

/-- On whatever host it is done, the last stage moves one file, or it fails and changes nothing. -/
inductive Collected (expected : ExpectedOutput) (r : Request) (found : Host) :
    Except ExtractError Unit → Host → Prop
  | failed {reason : ExtractError} : Collected expected r found (.error reason) found
  | moved {tree : Tree} {place goal : Location} {contents : Bytes} {executable : Bool}
      (h : found.tree.Moved found.directory (expected.path r) r.dst tree place goal contents
        executable) :
      Collected expected r found (.ok ()) { found with tree }

section Frame

theorem LeftByArchiver.keeps {launches : List Launch} (hready : ready.Rooted)
    (h : LeftByArchiver r start ready launches left) :
    left.Rooted ∧ ready.KeepsDirectories left := by
  cases h with
  | idle => exact ⟨hready, .refl ready⟩
  | worked hinside =>
    obtain ⟨-, hdirectory⟩ := Tree.enter_of_findDirectory hinside
    exact Effect.foldl_apply_rooted hready hdirectory _

theorem keeps_of_left {launches : List Launch} (hs : start.Sound)
    (hcleared : start.tree.WithoutFile start.directory (expected.path r) ready)
    (hleft : LeftByArchiver r start ready launches left) :
    left.Rooted ∧ start.tree.KeepsDirectories left := by
  obtain ⟨hready, hfirst⟩ := hcleared.keeps hs.rooted hs.standing
  obtain ⟨hrooted, hthen⟩ := hleft.keeps hready
  exact ⟨hrooted, hfirst.trans hthen⟩

/-- While directories are kept, the expected file is where an earlier one was. -/
theorem ExpectedAt.place_eq (hs : start.Sound) {place earlier : Location} {contents : Bytes}
    {executable : Bool} (hearlier : ExpectedAt expected r start earlier) (hleft : left.Rooted)
    (hkeeps : start.tree.KeepsDirectories left)
    (hfound : left.find start.directory (expected.path r) =
      .ok (place, .file contents executable)) : earlier = place := by
  obtain ⟨old, mark, hold⟩ := hearlier
  obtain ⟨outer, name, rfl, hspot, -⟩ := (Tree.find_eq_file hs.rooted hs.standing).mp hold
  obtain ⟨outer', name', rfl, hspot', -⟩ :=
    (Tree.find_eq_file hleft (hkeeps _ hs.standing)).mp hfound
  have hsame := (Tree.spot_mono hkeeps hspot).symm.trans hspot'
  cases hsame
  rfl

theorem Started.leftByArchiver (hstarted : Started program expected r start run ran) :
    LeftByArchiver r start (cleared expected r start).tree ran.launches ran.tree ∧
      ran = { start with tree := ran.tree, launches := ran.launches } := by
  obtain ⟨location, inside, hinside, -, hrun, rfl⟩ := Host.launch_eq_ok hstarted.launched
  rw [directory_cleared] at hinside
  rw [runs_cleared, launches_cleared] at hrun
  rw [hrun, launches_cleared]
  refine ⟨.worked hinside, ?_⟩
  rw [cleared_eq expected r start]

theorem Started.framed_of_error (hstarted : Started program expected r start run ran)
    (reason : ExtractError) :
    Framed expected r start (.error reason) ran (cleared expected r start).tree ran.tree where
  cleared := withoutFile_cleared expected r start
  worked := hstarted.leftByArchiver.1
  failed := fun _ _ => rfl
  started := nofun
  moved := nofun
  rest := hstarted.leftByArchiver.2

/-- However the work on a request ends, this is all that it changes. -/
theorem Ends.framed (hs : start.Sound)
    (hends : Ends Run.leave program expected r start result final) :
    ∃ ready left, Framed expected r start result final ready left := by
  cases hends with
  | stale hremove hcause => exact ⟨_, _, .same, .idle, fun _ _ => rfl, nofun, nofun, rfl⟩
  | notStarted hclear hlaunch =>
    have hidle : LeftByArchiver r start (cleared expected r start).tree
        (cleared expected r start).launches (cleared expected r start).tree := by
      rw [launches_cleared]
      exact .idle
    have hrest : cleared expected r start = { start with
        tree := (cleared expected r start).tree
        launches := (cleared expected r start).launches } := by
      rw [launches_cleared, ← cleared_eq]
    exact ⟨_, _, withoutFile_cleared expected r start, hidle, fun _ _ => rfl, nofun, nofun, hrest⟩
  | failed hstarted hstatus => exact ⟨_, _, hstarted.framed_of_error _⟩
  | missing hstarted hstatus hfile => exact ⟨_, _, hstarted.framed_of_error _⟩
  | notMoved hstarted hstatus hfile hmove => exact ⟨_, _, hstarted.framed_of_error _⟩
  | @moved run ran tree hstarted hstatus hmove =>
    obtain ⟨hworked, hrest⟩ := hstarted.leftByArchiver
    obtain ⟨place, goal, contents, executable, hmoved⟩ := Tree.moved_of_moveFile hmove
    have hdirectory : ran.directory = start.directory := by rw [hrest]
    rw [hdirectory] at hmoved
    have hcleared := withoutFile_cleared expected r start
    obtain ⟨hleft, hkeeps⟩ := keeps_of_left hs hcleared hworked
    obtain ⟨location, inside, -, -, hone⟩ := hstarted.launches
    refine ⟨_, _, hcleared, hworked, nofun, fun _ => ?_, fun _ => ?_, ?_⟩
    · simp [hone]
    · exact ⟨place, goal, contents, executable, hmoved, fun _ hearlier =>
        hearlier.place_eq hs hleft hkeeps hmoved.found⟩
    · rw [hrest]

end Frame

section Calls

theorem framed_extract (locator : Activity Host (Option PathText)) (expected : ExpectedOutput)
    (r : Request) (d : Desk) (hs : ((Desk.executable locator).run d).state.host.Sound) :
    ∃ ready left, Framed expected r ((Desk.executable locator).run d).state.host
      ((extract locator expected r).run d).value ((extract locator expected r).run d).state.host
      ready left := by
  cases hfound : ((Desk.executable locator).run d).value with
  | none =>
    obtain ⟨hvalue, hstate⟩ := run_extract_of_none expected r hfound
    rw [hvalue, hstate]
    exact ⟨_, _, .same, .idle, fun _ _ => rfl, nofun, nofun, rfl⟩
  | some program => exact (ends_extract Run.leave locator expected r d hfound).framed hs

theorem collected_collect (expected : ExpectedOutput) (r : Request) (found : Host) :
    Collected expected r found ((collect (expected.path r) r).run found).value
      ((collect (expected.path r) r).run found).state := by
  rcases hcollect : ((collect (expected.path r) r).run found).value with reason | _
  · rw [(collect_eq_error hcollect).1]
    exact .failed
  · obtain ⟨tree, hmove, hstate⟩ := collect_eq_ok hcollect
    obtain ⟨place, goal, contents, executable, hmoved⟩ := Tree.moved_of_moveFile hmove
    rw [hstate]
    exact .moved hmoved

/-- Apart from what the archiver changes, a call changes two places at most. Before the archiver
is started, the file at the place of the expected one is removed; after it ended well, the file it
left there is moved to the destination. A call that fails does nothing else than that removal,
and nothing at all if no archiver is known or the removal fails. The move is of one file whatever
the archiver did to the tree. -/
theorem extract_changes_two_places (locator : Activity Host (Option PathText))
    (expected : ExpectedOutput) (r : Request) (d : Desk) (hlocator : locator.OnlyLooks)
    (hd : d.host.Sound) :
    let result := ((extract locator expected r).run d).value
    let final := ((extract locator expected r).run d).state.host
    (∃ ready left, Framed expected r d.host result final ready left) ∧
      (∀ reason, result = .error reason →
        (reason = .unavailable "7z" ∨ ∃ path cause, reason = .staleOutput path cause) →
        final = d.host) ∧
      ∀ found : Host, Collected expected r found ((collect (expected.path r) r).run found).value
        ((collect (expected.path r) r).run found).state := by
  intro result final
  have hhost := host_executable hlocator d
  refine ⟨?_, fun reason hfail hearly => ?_, collected_collect expected r⟩
  · have hframed := framed_extract locator expected r d (hhost.symm ▸ hd)
    rwa [hhost] at hframed
  · rw [← hhost]
    exact host_extract_of_early Run.leave locator expected r d hfail hearly

/-- The archiver writes the expected file where an older one was, and the new one is moved. -/
theorem extract_changes_two_places_replacing :
    let host := hostWith ['a'] ⟨[.writeFile ['a'] [2], .writeFile ['c'] [3]], .exited 0, []⟩
    let locator := ArchiverSearch.locate (some ['/', 'w', '/', '7', 'z'])
    let r : Request := ⟨['i'], 1, ['W', '\\', 'a'], ['b']⟩
    let reply := (extract locator .sourceName r).run ⟨host, none⟩
    locator.OnlyLooks ∧ host.Sound ∧ reply.value = .ok () ∧
      reply.state.host.tree.get? [['c'], ['w']] = some (.file [3] false) ∧
      ∃ ready left, Framed .sourceName r host (.ok ()) reply.state.host ready left := by
  intro host locator r reply
  have hlocator : locator.OnlyLooks := ArchiverSearch.onlyLooks_locate _
  have hhost : host.Sound := sound_hostWith _ _
  have hok : reply.value = .ok () := by decide +kernel
  have hother : reply.state.host.tree.get? [['c'], ['w']] = some (.file [3] false) := by
    decide +kernel
  obtain ⟨hframed, -, -⟩ :=
    extract_changes_two_places locator .sourceName r ⟨host, none⟩ hlocator hhost
  refine ⟨hlocator, hhost, hok, hother, ?_⟩
  rwa [← hok]

end Calls

end BootMedia.Archiver
