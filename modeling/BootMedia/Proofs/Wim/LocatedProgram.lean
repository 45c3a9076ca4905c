import BootMedia.Proofs.PathPieces
import BootMedia.Proofs.Wim.Stages
import Mathlib

/-!
Whether the program that is run is the one that was located. The archiver is looked for from the
current directory and started from the destination directory. Main statement: a path that leads to
the same place from both, as an absolute one does, names the program that is run; any other path
may name another program, or none.
-/
namespace BootMedia

variable {directory inside location : Location} {p : PathText}

namespace Host

variable {h : Host}

/-- A path is followed to the same place from both directories: it is absolute, or it has a slash
and the directories are one. A bare name is not followed at all, but searched for. -/
def SameFrom (p : PathText) (directory inside : Location) : Prop :=
  p.isAbsolute = true ∨ p.contains '/' = true ∧ inside = directory

theorem resolveProgram_of_sameFrom (hsame : SameFrom p directory inside)
    (hthere : h.programAt directory p = .ok location) :
    h.resolveProgram inside p = .ok location := by
  rcases hsame with habsolute | ⟨hslash, rfl⟩
  · rw [resolveProgram_of_slash (PathText.contains_slash_of_isAbsolute habsolute), ← hthere]
    simp only [programAt, Tree.find_of_isAbsolute habsolute inside directory]
  · rw [resolveProgram_of_slash hslash, hthere]

end Host

namespace ArchiverSearch

variable {h : Host}

theorem isAbsolute_of_mem_candidates {searchPath : PathText}
    (hsearch : ∀ directory ∈ fields ':' searchPath, PathText.isAbsolute directory = true)
    (hmem : p ∈ candidates (some searchPath)) : p.isAbsolute = true := by
  obtain ⟨name, hname, hjoined⟩ := List.mem_flatMap.mp hmem
  obtain ⟨directory, hdirectory, rfl⟩ := List.mem_map.mp hjoined
  have habsolute := hsearch directory hdirectory
  have hne : directory ≠ [] := by
    rintro rfl
    nomatch habsolute
  have hplain : PathText.isAbsolute name = false := by
    simp only [names, List.mem_cons, List.not_mem_nil, or_false] at hname
    rcases hname with rfl | rfl <;> rfl
  rw [PathText.isAbsolute_join hne hplain, habsolute]

theorem mem_of_locate {given : Option PathText} (hfound : ((locate given).run h).value = some p) :
    p ∈ given ∨ p ∈ candidates h.searchPath := by
  cases given with
  | none => exact Or.inr (List.mem_of_find?_eq_some hfound)
  | some path =>
    cases hfile : h.isFile path with
    | true =>
      simp only [locate, Activity.run_bind, Activity.run_look, hfile] at hfound
      exact Or.inl hfound
    | false =>
      simp only [locate, Activity.run_bind, Activity.run_look, hfile] at hfound
      exact Or.inr (List.mem_of_find?_eq_some hfound)

/-- An archiver that was configured by an absolute path, or found along a search path of absolute
directories, is located by an absolute path. -/
theorem isAbsolute_of_locate {given : Option PathText}
    (hgiven : ∀ path ∈ given, path.isAbsolute = true)
    (hsearch : ∀ searchPath ∈ h.searchPath, ∀ directory ∈ fields ':' searchPath,
      PathText.isAbsolute directory = true)
    (hfound : ((locate given).run h).value = some p) : p.isAbsolute = true := by
  rcases mem_of_locate hfound with hmem | hmem
  · exact hgiven p hmem
  · cases hpath : h.searchPath with
    | none =>
      rw [hpath] at hmem
      nomatch hmem
    | some searchPath =>
      rw [hpath] at hmem
      exact isAbsolute_of_mem_candidates (hsearch searchPath hpath) hmem

end ArchiverSearch

namespace Archiver

variable {program : PathText} {expected : ExpectedOutput} {r : Request} {start : Host}

/-- Nothing but the program itself can keep a launch from happening: what was there before is
out of the way, the destination directory is there, and the arguments can be handed over. -/
structure Unhindered (expected : ExpectedOutput) (r : Request) (start : Host)
    (inside : Location) : Prop where
  clear : ((clearStale (expected.path r)).run start).value = .ok ()
  directory : (cleared expected r start).tree.findDirectory start.directory r.destinationDir =
    .ok inside
  noNul : (arguments start.directory r).any hasNul = false
  short : ∀ t ∈ arguments start.directory r ++ start.searchPathEntry,
    byteLength t < Host.argumentLimit

theorem Unhindered.started {inside location : Location}
    (hfree : Unhindered expected r start inside) (hnul : hasNul program = false)
    (hlocation : (cleared expected r start).resolveProgram inside program = .ok location) :
    ∃ run ran, Started program expected r start run ran ∧
      ran.launches = start.launches ++ [⟨location, inside, arguments start.directory r⟩] := by
  have hdirectory := hfree.directory
  have hfind := Tree.find_of_findDirectory hdirectory
  have hnuls : (program :: r.destinationDir :: arguments start.directory r).any hasNul = false := by
    simp only [List.any_cons, hnul, (Tree.usable_of_find hfind).noNul, hfree.noNul, Bool.or_false]
  have hshort := hfree.short
  rw [← directory_cleared expected r start] at hdirectory
  rw [← searchPathEntry_cleared expected r start] at hshort
  obtain ⟨run, ran, hlaunch, hone⟩ :=
    Host.launch_of_resolved Run.leave hnuls hdirectory hlocation hshort
  rw [launches_cleared] at hone
  exact ⟨run, ran, ⟨hfree.clear, hlaunch⟩, hone⟩

/-- What is run is what the path of the located archiver leads to from the destination directory,
and so it is the located archiver if the path leads to the same place from the current directory;
then nothing about the path itself keeps it from being run. -/
theorem extract_launches_located (given : Option PathText) (expected : ExpectedOutput)
    (r : Request) (d : Desk) {program : PathText} {location : Location}
    (hfound : ((Desk.executable (ArchiverSearch.locate given)).run d).value = some program)
    (hthere : (cleared expected r d.host).programAt d.host.directory program = .ok location) :
    let final := ((extract (ArchiverSearch.locate given) expected r).run d).state.host
    (final.launches = d.host.launches ∨ ∃ launched inside,
        (cleared expected r d.host).resolveProgram inside program = .ok launched ∧
        (Host.SameFrom program d.host.directory inside → launched = location) ∧
        final.launches =
          d.host.launches ++ [⟨launched, inside, arguments d.host.directory r⟩]) ∧
      ∀ inside, Unhindered expected r d.host inside →
        Host.SameFrom program d.host.directory inside →
        final.launches =
          d.host.launches ++ [⟨location, inside, arguments d.host.directory r⟩] := by
  intro final
  have hhost := host_executable (ArchiverSearch.onlyLooks_locate given) d
  obtain ⟨-, hstate⟩ := run_extract_of_some expected r hfound
  rw [hhost] at hstate
  have hends := ends_work Run.leave program expected r d.host
  rw [← hstate] at hends
  constructor
  · rcases hends.launches with hnone | ⟨launched, inside, -, hlaunched, hone⟩
    · exact Or.inl hnone
    · refine Or.inr ⟨launched, inside, hlaunched, fun hsame => ?_, hone⟩
      have hlocation := Host.resolveProgram_of_sameFrom hsame hthere
      exact Except.ok.inj (hlaunched.symm.trans hlocation)
  · intro inside hfree hsame
    obtain ⟨contents, hfind⟩ := Host.find_of_programAt hthere
    have hnul := (Tree.usable_of_find hfind).noNul
    have hlocation := Host.resolveProgram_of_sameFrom hsame hthere
    obtain ⟨run, ran, hstarted, hone⟩ := hfree.started hnul hlocation
    exact (hends.launches_of_started hstarted).trans hone

/-- An archiver along a search path of absolute directories runs, in another directory than the
one it was looked for from. -/
theorem extract_launches_located_along_path :
    let installed := (Tree.empty.put [['t']] .directory).put [['7', 'z'], ['t']] (.file [] true)
    let tree := (installed.put [['w']] .directory).put [['o'], ['w']] .directory
    let run : Run := ⟨[.writeFile ['a'] [1]], .exited 0, []⟩
    let host : Host := ⟨tree, [['w']], some ['/', 't'], fun _ => run, []⟩
    let r : Request := ⟨['i'], 1, ['a'], ['o', '/', 'x']⟩
    let final := ((extract (ArchiverSearch.locate none) .sourceName r).run ⟨host, none⟩).state.host
    ((ArchiverSearch.locate none).run host).value = some ['/', 't', '/', '7', 'z'] ∧
      final.launches = [⟨[['7', 'z'], ['t']], [['o'], ['w']], arguments [['w']] r⟩] := by
  intro installed tree run host r final
  have hfound : ((ArchiverSearch.locate none).run host).value = some ['/', 't', '/', '7', 'z'] := by
    decide +kernel
  have habsolute : PathText.isAbsolute ['/', 't', '/', '7', 'z'] = true :=
    ArchiverSearch.isAbsolute_of_locate (by simp) (by decide) hfound
  have hthere : (cleared .sourceName r host).programAt host.directory ['/', 't', '/', '7', 'z'] =
      .ok [['7', 'z'], ['t']] := by decide +kernel
  have hfree : Unhindered .sourceName r host [['o'], ['w']] :=
    ⟨by decide +kernel, by decide +kernel, by decide +kernel, by decide +kernel⟩
  obtain ⟨-, hrun⟩ := extract_launches_located none .sourceName r ⟨host, none⟩ hfound hthere
  exact ⟨hfound, hrun [['o'], ['w']] hfree (Or.inl habsolute)⟩

/-- Another program than the located one may be run: here one of the same relative path below the
destination directory. -/
theorem extract_may_launch_another :
    ¬ ∀ (given : Option PathText) (expected : ExpectedOutput) (r : Request) (d : Desk)
        (program : PathText) (location : Location), d.host.Sound →
      ((Desk.executable (ArchiverSearch.locate given)).run d).value = some program →
      (cleared expected r d.host).programAt d.host.directory program = .ok location →
      let final := ((extract (ArchiverSearch.locate given) expected r).run d).state.host
      ∀ launch ∈ final.launches.drop d.host.launches.length, launch.program = location := by
  intro hclaim
  let outer := ((Tree.empty.put [['w']] .directory).put [['b'], ['w']] .directory).put
    [['7', 'z'], ['b'], ['w']] (.file [] true)
  let inner := (outer.put [['o'], ['w']] .directory).put [['b'], ['o'], ['w']] .directory
  let tree := inner.put [['7', 'z'], ['b'], ['o'], ['w']] (.file [] true)
  let host : Host := ⟨tree, [['w']], none, fun _ => ⟨[], .exited 0, []⟩, []⟩
  have hw : (Tree.empty.put [['w']] .directory).Rooted := Tree.rooted_empty.put rfl fun _ => rfl
  have houter : outer.Rooted := (hw.put rfl fun _ => rfl).put rfl nofun
  have hinner : inner.Rooted := (houter.put rfl fun _ => rfl).put rfl fun _ => rfl
  have hhost : host.Sound := ⟨hinner.put rfl nofun, rfl⟩
  have hsame := hclaim (some ['b', '/', '7', 'z']) .sourceName
    ⟨['i'], 1, ['a'], ['o', '/', 'x']⟩ ⟨host, none⟩ ['b', '/', '7', 'z']
    [['7', 'z'], ['b'], ['w']] hhost (by decide +kernel) (by decide +kernel)
  have hother := hsame ⟨[['7', 'z'], ['b'], ['o'], ['w']], [['o'], ['w']],
    arguments [['w']] ⟨['i'], 1, ['a'], ['o', '/', 'x']⟩⟩ (by decide +kernel)
  exact absurd hother (by decide)

end Archiver

end BootMedia
