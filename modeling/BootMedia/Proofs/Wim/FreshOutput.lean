import BootMedia.Proofs.Host.JoinedPath
import BootMedia.Proofs.Wim.Stages
import Mathlib

/-!
Only output of this run counts. A call of the archiver that succeeds moved a file that was not
there when the archiver was started, and that holds what the last write of this run brought, in
whatever order earlier calls succeeded or failed and whatever they or anyone else left behind.
-/
namespace BootMedia

theorem Request.slash_not_mem_sourceName (r : Request) : '/' ∉ r.sourceName := by
  intro hslash
  have hplain := List.mem_takeWhile_imp (List.mem_reverse.mp hslash)
  exact absurd hplain (by decide)

theorem Request.destinationDir_ne_nil (r : Request) : r.destinationDir ≠ [] := by
  unfold destinationDir
  split
  · exact List.cons_ne_nil _ _
  · exact List.cons_ne_nil _ _

namespace ExpectedOutput

variable {e : ExpectedOutput}

/-- No component of the expected file's name leads upward. -/
def NeverUp : ExpectedOutput → Prop
  | sourceName => True
  | fixed name => PathText.Component.up ∉ PathText.components name

theorem NeverUp.not_mem_pieces (he : e.NeverUp) (r : Request) :
    ['.', '.'] ∉ (PathText.pieces (e.fileName r)).dropLast := by
  cases e with
  | sourceName =>
    rw [fileName, PathText.pieces_singleton r.slash_not_mem_sourceName]
    split <;> exact List.not_mem_nil
  | fixed name =>
    intro hmem
    have hpiece := List.mem_of_mem_filter (List.mem_of_mem_dropLast hmem)
    have hcomponent : PathText.Component.up ∈ PathText.components name :=
      List.mem_append_right _ (List.mem_filterMap.mpr ⟨_, hpiece, rfl⟩)
    exact he hcomponent

/-- The way to the expected file leads to the destination directory first, or to the root, and
then never upward. -/
theorem NeverUp.exists_way (he : e.NeverUp) {r : Request}
    (hslash : (e.path r).endsWithSlash = false) {t : Tree} {directory inside : Location}
    (hinside : t.enter (r.destinationDir.start directory) r.destinationDir.pieces =
      .ok inside) :
    ∃ front back base, (e.path r).pieces = front ++ back ∧ back ≠ [] ∧
      ['.', '.'] ∉ back.dropLast ∧
      t.enter ((e.path r).start directory) front = .ok base := by
  have hdir := r.destinationDir_ne_nil
  have hup := he.not_mem_pieces r
  by_cases habsolute : PathText.isAbsolute (e.fileName r) = true
  · have hpath : e.path r = e.fileName r := by simp only [path, PathText.join, habsolute, if_true]
    have hne : e.fileName r ≠ [] := by
      intro hnil
      rw [hnil] at habsolute
      exact Bool.noConfusion habsolute
    rw [hpath] at hslash ⊢
    exact ⟨[], _, _, rfl, PathText.pieces_ne_nil hne hslash, hup, rfl⟩
  · rw [Bool.not_eq_true] at habsolute
    rw [path, PathText.endsWithSlash_join hdir habsolute, Bool.or_eq_false_iff] at hslash
    have hne : e.fileName r ≠ [] := by simpa using hslash.1
    refine ⟨_, _, inside, PathText.pieces_join hdir habsolute,
      PathText.pieces_ne_nil hne hslash.2, hup, ?_⟩
    rw [path, PathText.start_join hdir habsolute]
    exact hinside

end ExpectedOutput

namespace Archiver

theorem path_ne_nil (expected : ExpectedOutput) (r : Request) : expected.path r ≠ [] :=
  PathText.join_ne_nil r.destinationDir_ne_nil

/-- The archiver is not started where the path of the expected file leads to a directory: the
removal fails because of it. -/
theorem Started.not_enter {program : PathText} {expected : ExpectedOutput} {r : Request}
    {start ran : Host} {run : Run} (hstarted : Started program expected r start run ran)
    (reached : Location) :
    start.tree.enter ((expected.path r).start start.directory) (expected.path r).pieces ≠
      .ok reached := by
  intro henter
  obtain ⟨cause, hremove, hcause⟩ := Tree.removeFile_of_enter (path_ne_nil expected r) henter
  rcases clearStale_eq_ok hstarted.clear with ⟨_, hremoved, -⟩ | ⟨other, hmissing, hother, -⟩
  · rw [hremove] at hremoved
    nomatch hremoved
  · obtain rfl := Except.error.inj (hremove.symm.trans hmissing)
    exact Bool.noConfusion (hcause.symm.trans hother)

/-- When the archiver is started, nothing stands where the expected file will be found. -/
theorem get?_cleared {start : Host} {expected : ExpectedOutput} {r : Request}
    (hs : start.Sound) (hexpected : expected.NeverUp)
    (hok : ((clearStale (expected.path r)).run start).value = .ok ()) {inside : Location}
    (hinside : (cleared expected r start).tree.findDirectory start.directory r.destinationDir =
      .ok inside) {after : Tree}
    (hkeep : (cleared expected r start).tree.KeepsDirectories after) {outer : Location}
    {name : Name}
    (hspot : after.spot start.directory (expected.path r) = .ok (.named outer name false)) :
    (cleared expected r start).tree.get? (name :: outer) = none := by
  unfold cleared at hinside hkeep ⊢
  rcases clearStale_eq_ok hok with ⟨tree, hremove, hstate⟩ | ⟨cause, hremove, hcause, hstate⟩
  · rw [hstate] at hkeep ⊢
    have hkept := (Tree.keepsDirectories_removeFile hremove).trans hkeep
    obtain ⟨outer', name', _, _, hremoved, _, rfl⟩ := Tree.removeFile_eq_ok hremove
    have hplace := (Tree.spot_mono hkept hremoved).symm.trans hspot
    cases hplace
    exact (Tree.get?_erase start.tree (List.cons_ne_nil name outer) _).trans (if_pos rfl)
  · rw [hstate] at hinside hkeep ⊢
    -- A file there would have been found by the removal, since the way to it was already open.
    by_contra hstands
    obtain ⟨_, _, _, hslash, _⟩ := Tree.spot_eq_named.mp hspot
    obtain ⟨henter, _⟩ := Tree.enter_of_findDirectory hinside
    obtain ⟨front, back, base, hpieces, hback, hup, hbase⟩ := hexpected.exists_way hslash henter
    have hthere := hs.rooted.spot_of_spot hkeep hpieces hback hup hbase hspot hstands
    exact hstands (Tree.get?_of_removeFile_error hthere hremove hcause)

/-- How a call brought a file to its destination: the archiver was started once, in the
destination directory, with nothing at the place of the expected file; its last write there
brought the contents, and these are found at the destination. -/
structure Delivered (expected : ExpectedOutput) (r : Request) (start final : Host)
    (program inside place target : Location) (contents : Bytes) (executable : Bool) : Prop where
  launched : final.launches =
    start.launches ++ [⟨program, inside, arguments start.directory r⟩]
  runsThere : (cleared expected r start).tree.findDirectory start.directory r.destinationDir =
    .ok inside
  vacant : (cleared expected r start).tree.get? place = none
  expectedThere : (((start.runs start.launches.length).effects.foldl (Effect.apply inside)
    (cleared expected r start).tree).find start.directory (expected.path r)) =
      .ok (place, .file contents executable)
  written : Effect.lastWrite inside (cleared expected r start).tree
    (start.runs start.launches.length).effects place = some contents
  succeeded : (start.runs start.launches.length).status.isSuccess = true
  found : final.tree.find final.directory r.dst = .ok (target, .file contents executable)

theorem delivered_of_work {start : Host} (hs : start.Sound) {expected : ExpectedOutput}
    (hexpected : expected.NeverUp) {executable : PathText} {r : Request}
    (hok : ((work executable expected r).run start).value = .ok ()) :
    ∃ program inside place target contents mark,
      Delivered expected r start ((work executable expected r).run start).state
        program inside place target contents mark := by
  obtain ⟨run, ran, tree, ⟨hclear, hlaunch⟩, hstatus, hmove, hfinal⟩ := work_eq_ok hok
  have hready : (cleared expected r start).Sound := keepsOrder_clearStale start hs
  have hran := hready.launch hlaunch
  obtain ⟨program, inside, hinside, _, hrun, hafter⟩ := Host.launch_eq_ok hlaunch
  rw [runs_cleared, launches_cleared] at hrun
  rw [directory_cleared] at hinside
  rw [hafter] at hran hmove
  obtain ⟨place, target, contents, mark, hmoved⟩ := Tree.moved_of_moveFile hmove
  have hfound := hmoved.found
  obtain ⟨outer, name, rfl, hspot, hchild⟩ :=
    (Tree.find_eq_file hran.rooted hran.standing).mp hfound
  simp only [directory_cleared] at hspot hfound
  -- The file stands there after the run, so all that is left to see is that it did not before.
  obtain ⟨_, hin⟩ := Tree.enter_of_findDirectory hinside
  obtain ⟨_, hkeep⟩ := Effect.foldl_apply_rooted hready.rooted hin run.effects
  have hvacant := get?_cleared hs hexpected hclear hinside hkeep hspot
  have hwritten := Effect.lastWrite_of_vacant hready.rooted hin run.effects hvacant
    (Tree.child_eq_ok hchild).1
  rw [hrun] at hfound hwritten hstatus
  refine ⟨program, inside, name :: outer, target, contents, mark, ?_⟩
  rw [hfinal, hafter]
  exact ⟨by simp, hinside, hvacant, hfound, hwritten, hstatus, hmoved.brought⟩

/-- Whatever earlier calls did, a call that succeeds brings a file that the archiver wrote in this
very call where the expected file was missing when it was started. -/
theorem extract_delivers (locator : Activity Host (Option PathText)) (expected : ExpectedOutput)
    (earlier : List Request) (r : Request) (d : Desk) (hlocator : locator.KeepsOrder)
    (hexpected : expected.NeverUp) (hd : d.host.Sound)
    (hok : ((extract locator expected r).run (afterCalls locator expected earlier d)).value =
      .ok ()) :
    ∃ program inside place target contents mark,
      Delivered expected r
        ((Desk.executable locator).run (afterCalls locator expected earlier d)).state.host
        ((extract locator expected r).run (afterCalls locator expected earlier d)).state.host
        program inside place target contents mark := by
  have hbefore : (afterCalls locator expected earlier d).host.Sound :=
    sound_afterCalls hlocator earlier hd
  have hstart := sound_executable hlocator hbefore
  obtain ⟨executable, hwork, hfinal⟩ := extract_eq_ok hok
  rw [hfinal]
  exact delivered_of_work hstart hexpected hwork

/-- The first call fails and leaves a file behind in place of an older one; the second call brings
its own. -/
theorem extract_delivers_after_failure :
    let tree := ((Tree.empty.put [['w']] .directory).put [['7', 'z'], ['w']] (.file [] true)).put
      [['a'], ['w']] (.file [1] false)
    let failing : Run := ⟨[.writeFile ['a'] [2]], .exited 2, []⟩
    let working : Run := ⟨[.makeDirectories ['c'], .writeFile ['.', '/', 'a'] [3]], .exited 0, []⟩
    let host : Host := ⟨tree, [['w']], none, fun n => if n = 0 then failing else working, []⟩
    let locator := ArchiverSearch.locate (some ['/', 'w', '/', '7', 'z'])
    let r : Request := ⟨['i'], 1, ['W', '\\', 'a'], ['b']⟩
    let failed := afterCalls locator .sourceName [r] ⟨host, none⟩
    locator.KeepsOrder ∧ ExpectedOutput.sourceName.NeverUp ∧ host.Sound ∧
      failed.host.tree.get? [['a'], ['w']] = some (.file [2] false) ∧
      ((extract locator .sourceName r).run failed).value = .ok () ∧
      ∃ program inside place target contents mark,
        Delivered .sourceName r ((Desk.executable locator).run failed).state.host
          ((extract locator .sourceName r).run failed).state.host
          program inside place target contents mark := by
  intro tree failing working host locator r
  have hlocator : locator.KeepsOrder := ArchiverSearch.keepsOrder_locate _
  have hdirectory : (Tree.empty.put [['w']] .directory).Rooted :=
    Tree.rooted_empty.put rfl fun _ => rfl
  have hprogram : ((Tree.empty.put [['w']] .directory).put [['7', 'z'], ['w']]
      (.file [] true)).Rooted := hdirectory.put rfl nofun
  have hhost : host.Sound := ⟨hprogram.put rfl nofun, rfl⟩
  have hleft : (afterCalls locator .sourceName [r] ⟨host, none⟩).host.tree.get? [['a'], ['w']] =
      some (.file [2] false) := by decide +kernel
  have hok : ((extract locator .sourceName r).run
      (afterCalls locator .sourceName [r] ⟨host, none⟩)).value = .ok () := by decide +kernel
  exact ⟨hlocator, trivial, hhost, hleft, hok,
    extract_delivers locator .sourceName [r] r ⟨host, none⟩ hlocator trivial hhost hok⟩

end Archiver

end BootMedia
