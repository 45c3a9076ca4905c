import BootMedia.Proofs.PathComponents
import BootMedia.Proofs.Wim.FailedExtraction
import BootMedia.Proofs.Wim.FirstFailure
import BootMedia.Proofs.Wim.FreshOutput
import Mathlib

/-!
The directory of a destination. The archiver is launched in this directory, the driver looks for the
expected file by a path below it, and moves the file to the destination, which is a path of its own.
The three agree because a joined path leads to what its second part leads to from the first one, and
because a destination has the components of its directory and one name more. Main statement: a call
fails with nothing changed but for the removal of the expected file, or all that it does with files
is done in one directory.
-/
namespace BootMedia

namespace Request

open PathText

variable {r : Request}

/-- The directory is the parent of the destination, or the current directory where the parent says
nothing. -/
theorem destinationDir_cases (r : Request) :
    r.dst.parent? = some r.destinationDir ∨
      r.destinationDir = ['.'] ∧ (r.dst.parent? = none ∨ r.dst.parent? = some []) := by
  unfold destinationDir
  rcases hparent : r.dst.parent? with _ | (_ | ⟨c, rest⟩)
  · exact Or.inr ⟨rfl, Or.inl rfl⟩
  · exact Or.inr ⟨rfl, Or.inr rfl⟩
  · exact Or.inl rfl

theorem isPrefix_destinationDir (r : Request) :
    r.destinationDir = ['.'] ∨ r.destinationDir <+: r.dst := by
  rcases r.destinationDir_cases with hparent | ⟨hhere, -⟩
  · exact Or.inr (components_of_parent?_some hparent).1
  · exact Or.inl hhere

/-- The directory and the last name of a destination make up the destination. -/
theorem steps_destinationDir {name : List Char}
    (hname : r.dst.components.getLast? = some (.name name)) :
    r.destinationDir.steps ++ [.name name] = r.dst.steps := by
  rcases r.destinationDir_cases with hparent | ⟨hhere, hnone | hempty⟩
  · obtain ⟨-, last, hlast⟩ := components_of_parent?_some hparent
    rw [hlast, List.getLast?_concat] at hname
    cases hname
    rw [steps, steps, hlast, dropHere_concat]
  · rcases components_of_parent?_none hnone with hnil | hroot
    · simp [hnil] at hname
    · simp [hroot] at hname
  · obtain ⟨-, last, hlast⟩ := components_of_parent?_some hempty
    rw [hlast, List.getLast?_concat] at hname
    cases hname
    rw [hhere, steps, steps, hlast]
    rfl

/-- Where the destination is a name in a directory, the destination directory leads to that
directory. -/
theorem home_of_spot {t : Tree} {directory outer : Location} {name : Name} {slash : Bool}
    (hspot : t.spot directory r.dst = .ok (.named outer name slash)) :
    r.dst.components.getLast? = some (.name name) ∧
      t.enter (r.destinationDir.start directory) r.destinationDir.pieces = .ok outer := by
  obtain ⟨-, hdot, hup, -, way, hway, henter⟩ := Tree.spot_eq_named.mp hspot
  have hsolid : r.dst.solidPieces = way.filter (fun piece => piece != ['.']) ++ [name] := by
    rw [solidPieces_eq_filter, hway, List.filter_append]
    simp [hdot]
  have hlast := getLast?_components hsolid hup
  obtain ⟨habsolute, hpieces⟩ := of_steps_concat (steps_destinationDir hlast)
  have hsame : r.destinationDir.solidPieces = way.filter fun piece => piece != ['.'] :=
    (List.append_inj' (hpieces.symm.trans hsolid) rfl).1
  have hstart : r.destinationDir.start directory = r.dst.start directory := by
    rw [PathText.start, PathText.start, habsolute]
  refine ⟨hlast, ?_⟩
  rw [← Tree.enter_filter_here, ← solidPieces_eq_filter, hsame, Tree.enter_filter_here, hstart]
  exact henter

end Request

namespace Archiver

variable {program : PathText} {expected : ExpectedOutput} {r : Request} {start final ran : Host}
  {run : Run} {inside : Location} {result : Except ExtractError Unit}

/-- The tree after some effects of the archiver in a directory, once the way was cleared for it. -/
def treeAfter (expected : ExpectedOutput) (r : Request) (start : Host) (inside : Location)
    (done : List Effect) : Tree :=
  done.foldl (Effect.apply inside) (cleared expected r start).tree

def nextEffects (start : Host) : List Effect := (start.runs start.launches.length).effects

/-- The trees up to the end of a run of the archiver: the one in which the expected file is
removed, and those between one effect of the run and the next. -/
inductive Passed (expected : ExpectedOutput) (r : Request) (start : Host) (inside : Location) :
    Tree → Prop
  | before : Passed expected r start inside start.tree
  | during {done : List Effect} (h : done <+: nextEffects start) :
      Passed expected r start inside (treeAfter expected r start inside done)

/-- What the archiver finds in the directory it runs in, as long as it runs. The path of the
expected file leads to what the name of the file leads to from this directory, and what is written
under the name is found; and where the destination is a name in some directory, it is this one. -/
structure WorksIn (expected : ExpectedOutput) (r : Request) (start : Host) (inside : Location) :
    Prop where
  entered : (cleared expected r start).tree.findDirectory start.directory r.destinationDir =
    .ok inside
  agree : ∀ t, Passed expected r start inside t →
    t.spot start.directory (expected.path r) = t.spot inside (expected.fileName r)
  written : ∀ t t' contents, Passed expected r start inside t →
    t.writeFile inside (expected.fileName r) contents = .ok t' →
      ∃ place executable,
        t'.find start.directory (expected.path r) = .ok (place, .file contents executable)
  home : ∀ t outer name slash, Passed expected r start inside t →
    t.spot start.directory r.dst = .ok (.named outer name slash) →
      outer = inside ∧ r.dst.components.getLast? = some (.name name)

/-- All that a call does with files is done in one directory: the archiver was launched in it, and
what it left is all there is, or the expected file was moved from one name in it to another. -/
structure OneDirectory (expected : ExpectedOutput) (r : Request) (start : Host)
    (result : Except ExtractError Unit) (final : Host) (inside : Location) : Prop
    extends WorksIn expected r start inside where
  launched : ∃ program, final.launches =
    start.launches ++ [⟨program, inside, arguments start.directory r⟩]
  unmoved : ∀ reason, result = .error reason →
    final.tree = treeAfter expected r start inside (nextEffects start)
  moved : result = .ok () → '/' ∉ expected.fileName r → ∃ name contents executable,
    r.dst.components.getLast? = some (.name name) ∧
      (treeAfter expected r start inside (nextEffects start)).Moved start.directory
        (expected.path r) r.dst final.tree (expected.fileName r :: inside) (name :: inside)
        contents executable

section Started

theorem Started.usable (hstarted : Started program expected r start run ran) :
    (expected.path r).Usable := by
  rcases clearStale_eq_ok hstarted.clear with ⟨_, hremove, -⟩ | ⟨cause, hremove, hcause, -⟩
  · obtain ⟨_, _, _, _, hspot, -⟩ := Tree.removeFile_eq_ok hremove
    exact (Tree.spot_eq_named.mp hspot).1
  · by_contra hunusable
    obtain ⟨other, hfail, hother⟩ :=
      Tree.removeFile_of_not_usable (path_ne_nil expected r) hunusable
    obtain rfl := Except.error.inj (hfail.symm.trans hremove)
    exact Bool.noConfusion (hother.symm.trans hcause)

theorem enter_of_cleared
    (hinside : (cleared expected r start).tree.findDirectory start.directory r.destinationDir =
      .ok inside) :
    start.tree.enter (r.destinationDir.start start.directory) r.destinationDir.pieces =
      .ok inside :=
  Tree.enter_mono (withoutFile_cleared expected r start).keeps_back
    (Tree.enter_of_findDirectory hinside).1

/-- Without a name for the expected file the archiver is not started: the removal fails because of
the directory. -/
theorem Started.fileName_ne_nil (hstarted : Started program expected r start run ran) :
    expected.fileName r ≠ [] := by
  intro hnil
  obtain ⟨_, inside, hinside, -⟩ := hstarted.launches
  have hdir := r.destinationDir_ne_nil
  have hpieces : (expected.path r).pieces = r.destinationDir.pieces := by
    rw [ExpectedOutput.path, hnil, PathText.pieces_join hdir rfl]
    exact List.append_nil _
  have hstart : (expected.path r).start start.directory =
      r.destinationDir.start start.directory := by
    rw [ExpectedOutput.path, hnil, PathText.start_join hdir rfl]
  refine hstarted.not_enter inside ?_
  rw [hpieces, hstart, enter_of_cleared hinside]

theorem Passed.keeps (hs : start.Sound)
    (hinside : (cleared expected r start).tree.findDirectory start.directory r.destinationDir =
      .ok inside) {t : Tree} (h : Passed expected r start inside t) :
    (cleared expected r start).tree.KeepsDirectories t := by
  cases h with
  | before => exact (withoutFile_cleared expected r start).keeps_back
  | during hdone =>
    have hready : (cleared expected r start).Sound := keepsOrder_clearStale start hs
    obtain ⟨-, hdirectory⟩ := Tree.enter_of_findDirectory hinside
    exact (Effect.foldl_apply_rooted hready.rooted hdirectory _).2

/-- While the directories stay, the path of the expected file leads to what its name leads to from
the directory in which the archiver runs. -/
theorem Started.spot_path (hstarted : Started program expected r start run ran)
    (hinside : (cleared expected r start).tree.findDirectory start.directory r.destinationDir =
      .ok inside) {t : Tree} (hkeeps : (cleared expected r start).tree.KeepsDirectories t) :
    t.spot start.directory (expected.path r) = t.spot inside (expected.fileName r) :=
  Tree.spot_join r.destinationDir_ne_nil hstarted.fileName_ne_nil hstarted.usable
    (Tree.enter_mono hkeeps (Tree.enter_of_findDirectory hinside).1)

theorem home_of_keeps
    (hinside : (cleared expected r start).tree.findDirectory start.directory r.destinationDir =
      .ok inside) {t : Tree} (hkeeps : (cleared expected r start).tree.KeepsDirectories t)
    {outer : Location} {name : Name} {slash : Bool}
    (hspot : t.spot start.directory r.dst = .ok (.named outer name slash)) :
    outer = inside ∧ r.dst.components.getLast? = some (.name name) := by
  obtain ⟨hname, houter⟩ := Request.home_of_spot hspot
  have hthere := Tree.enter_mono hkeeps (Tree.enter_of_findDirectory hinside).1
  exact ⟨Except.ok.inj (houter.symm.trans hthere), hname⟩

theorem Started.exists_inside (hstarted : Started program expected r start run ran) :
    ∃ inside location,
      (cleared expected r start).tree.findDirectory start.directory r.destinationDir =
        .ok inside ∧
      ran.launches = start.launches ++ [⟨location, inside, arguments start.directory r⟩] ∧
      ran.tree = treeAfter expected r start inside (nextEffects start) ∧
      ran.directory = start.directory := by
  obtain ⟨location, inside, hinside, -, hrun, rfl⟩ := Host.launch_eq_ok hstarted.launched
  rw [directory_cleared] at hinside
  rw [runs_cleared, launches_cleared] at hrun
  rw [launches_cleared]
  exact ⟨inside, location, hinside, rfl, by rw [treeAfter, nextEffects, hrun, Run.leave],
    directory_cleared expected r start⟩

theorem Started.worksIn (hs : start.Sound)
    (hstarted : Started program expected r start run ran)
    (hinside : (cleared expected r start).tree.findDirectory start.directory r.destinationDir =
      .ok inside) : WorksIn expected r start inside where
  entered := hinside
  agree t ht := hstarted.spot_path hinside (ht.keeps hs hinside)
  written t t' contents ht hwrite := by
    obtain ⟨place, executable, hfind⟩ := Tree.exists_find_of_writeFile hwrite
    have hkeeps := (ht.keeps hs hinside).trans (Tree.keepsDirectories_writeFile hwrite)
    exact ⟨place, executable, (Tree.find_congr (hstarted.spot_path hinside hkeeps)).trans hfind⟩
  home t outer name slash ht hspot := home_of_keeps hinside (ht.keeps hs hinside) hspot

theorem Started.oneDirectory_of_error (hs : start.Sound)
    (hstarted : Started program expected r start run ran) (reason : ExtractError) :
    ∃ inside, OneDirectory expected r start (.error reason) ran inside := by
  obtain ⟨inside, location, hinside, hlaunches, htree, -⟩ := hstarted.exists_inside
  exact ⟨inside, {
    toWorksIn := hstarted.worksIn hs hinside
    launched := ⟨location, hlaunches⟩
    unmoved := fun _ _ => htree
    moved := nofun }⟩

/-- A file of a name without a slash is moved from this name to another one in the directory in
which the archiver ran. -/
theorem Started.places_of_moved (hs : start.Sound)
    (hstarted : Started program expected r start run ran)
    (hinside : (cleared expected r start).tree.findDirectory start.directory r.destinationDir =
      .ok inside) (hname : '/' ∉ expected.fileName r) {left after : Tree}
    (hkeeps : (cleared expected r start).tree.KeepsDirectories left) (hleft : left.Rooted)
    (hafter : after.Rooted) {place goal : Location} {contents : Bytes} {executable : Bool}
    (hmoved : left.Moved start.directory (expected.path r) r.dst after place goal contents
      executable) :
    place = expected.fileName r :: inside ∧
      ∃ name, goal = name :: inside ∧ r.dst.components.getLast? = some (.name name) := by
  have hready : (cleared expected r start).Sound := keepsOrder_clearStale start hs
  have hdirectory : left.get? start.directory = some .directory := by
    have hstanding := hready.standing
    rw [directory_cleared] at hstanding
    exact hkeeps _ hstanding
  have hlater := hmoved.keepsDirectories
  constructor
  · obtain ⟨outer, last, rfl, hspot, -⟩ := (Tree.find_eq_file hleft hdirectory).mp hmoved.found
    rw [hstarted.spot_path hinside hkeeps] at hspot
    obtain ⟨rfl, rfl⟩ := Tree.named_of_spot hname hspot
    rfl
  · obtain ⟨outer, last, rfl, hspot, -⟩ :=
      (Tree.find_eq_file hafter (hlater _ hdirectory)).mp hmoved.brought
    obtain ⟨rfl, hlast⟩ := home_of_keeps hinside (hkeeps.trans hlater) hspot
    exact ⟨last, rfl, hlast⟩

end Started

theorem Ends.oneDirectory (hs : start.Sound)
    (hends : Ends Run.leave program expected r start result final) :
    (result ≠ .ok () ∧ (final = start ∨ final = cleared expected r start)) ∨
      ∃ inside, OneDirectory expected r start result final inside := by
  cases hends with
  | stale hremove hcause => exact Or.inl ⟨nofun, Or.inl rfl⟩
  | notStarted hclear hlaunch => exact Or.inl ⟨nofun, Or.inr rfl⟩
  | failed hstarted hstatus => exact Or.inr (hstarted.oneDirectory_of_error hs _)
  | missing hstarted hstatus hfile => exact Or.inr (hstarted.oneDirectory_of_error hs _)
  | notMoved hstarted hstatus hfile hmove =>
    exact Or.inr (hstarted.oneDirectory_of_error hs _)
  | @moved run ran tree hstarted hstatus hmove =>
    obtain ⟨inside, location, hinside, hlaunches, htree, hdirectory⟩ := hstarted.exists_inside
    have hready : (cleared expected r start).Sound := keepsOrder_clearStale start hs
    have hran : ran.Sound := hready.launch hstarted.launched
    have hkeeps : (cleared expected r start).tree.KeepsDirectories ran.tree := by
      rw [htree]
      exact Passed.keeps hs hinside (.during (List.prefix_refl _))
    have hafter := hran.rooted.moveFile hran.standing hmove
    obtain ⟨place, goal, contents, executable, hmoved⟩ := Tree.moved_of_moveFile hmove
    rw [hdirectory] at hmoved
    refine Or.inr ⟨inside, {
      toWorksIn := hstarted.worksIn hs hinside
      launched := ⟨location, hlaunches⟩
      unmoved := nofun
      moved := fun _ hname => ?_ }⟩
    obtain ⟨rfl, name, rfl, hlast⟩ :=
      hstarted.places_of_moved hs hinside hname hkeeps hran.rooted hafter hmoved
    rw [htree] at hmoved
    exact ⟨name, contents, executable, hlast, hmoved⟩

/-- The directory of a destination and the destination stay together. The directory is written as
the destination begins, or it is the current one; with the last name behind it, it has the
components of the destination. A call fails with no change but the removal of the expected file,
or all that it does is done in this directory. -/
theorem extract_works_in_one_directory (expected : ExpectedOutput) (r : Request) :
    r.destinationDir ≠ [] ∧ (r.destinationDir = ['.'] ∨ r.destinationDir <+: r.dst) ∧
      (∀ name, r.dst.components.getLast? = some (.name name) →
        r.destinationDir.steps ++ [.name name] = r.dst.steps) ∧
      ∀ (locator : Activity Host (Option PathText)) (d : Desk),
        let start := ((Desk.executable locator).run d).state.host
        let result := ((extract locator expected r).run d).value
        let final := ((extract locator expected r).run d).state.host
        start.Sound →
          (result ≠ .ok () ∧ (final = start ∨ final = cleared expected r start)) ∨
            ∃ inside, OneDirectory expected r start result final inside := by
  refine ⟨r.destinationDir_ne_nil, r.isPrefix_destinationDir,
    fun name hname => Request.steps_destinationDir hname, ?_⟩
  intro locator d start result final hstart
  cases hfound : ((Desk.executable locator).run d).value with
  | none =>
    obtain ⟨hvalue, hstate⟩ := run_extract_of_none expected r hfound
    refine Or.inl ⟨fun hok => ?_, Or.inl (congrArg Desk.host hstate)⟩
    nomatch hvalue.symm.trans hok
  | some program => exact (ends_extract Run.leave locator expected r d hfound).oneDirectory hstart

/-- The destination is written with a leading dot, a repeated slash and a lone dot on the way. -/
theorem extract_works_in_one_directory_below :
    let tree := ((Tree.empty.put [['w']] .directory).put [['7', 'z'], ['w']] (.file [] true)).put
      [['c'], ['w']] .directory
    let run : Run := ⟨[.writeFile ['a'] [2]], .exited 0, []⟩
    let host : Host := ⟨tree, [['w']], none, fun _ => run, []⟩
    let locator := ArchiverSearch.locate (some ['/', 'w', '/', '7', 'z'])
    let r : Request := ⟨['i'], 1, ['W', '\\', 'a'], "./c//./b".toList⟩
    let reply := (extract locator .sourceName r).run ⟨host, none⟩
    host.Sound ∧ r.destinationDir = ['.', '/', 'c'] ∧
      r.destinationDir.steps ++ [.name ['b']] = r.dst.steps ∧
      reply.state.host.tree.get? [['b'], ['c'], ['w']] = some (.file [2] false) ∧
      ∃ inside, OneDirectory .sourceName r host (.ok ()) reply.state.host inside := by
  intro tree run host locator r reply
  have hdirectory : (Tree.empty.put [['w']] .directory).Rooted :=
    Tree.rooted_empty.put rfl fun _ => rfl
  have hprogram : ((Tree.empty.put [['w']] .directory).put [['7', 'z'], ['w']]
      (.file [] true)).Rooted := hdirectory.put rfl nofun
  have hhost : host.Sound := ⟨hprogram.put rfl fun _ => rfl, rfl⟩
  have hstart : ((Desk.executable locator).run ⟨host, none⟩).state.host = host :=
    host_executable (ArchiverSearch.onlyLooks_locate _) _
  have hok : reply.value = .ok () := by decide +kernel
  have hthere : reply.state.host.tree.get? [['b'], ['c'], ['w']] = some (.file [2] false) := by
    decide +kernel
  obtain ⟨-, -, hsteps, hcalls⟩ := extract_works_in_one_directory .sourceName r
  have hcall := hcalls locator ⟨host, none⟩ (hstart.symm ▸ hhost)
  refine ⟨hhost, by decide, hsteps ['b'] (by decide), hthere, ?_⟩
  rcases hcall with ⟨hfailed, -⟩ | hone
  · exact absurd hok hfailed
  · rwa [hstart, show ((extract locator .sourceName r).run ⟨host, none⟩).value = .ok () from hok]
      at hone

end Archiver

end BootMedia
