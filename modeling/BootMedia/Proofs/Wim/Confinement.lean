import BootMedia.Proofs.Wim.FreshOutput
import BootMedia.Proofs.Wim.TreeFrame

/-!
Where a source can send the driver. A source comes from an image and may say anything, but the
driver takes only what follows its last separator. Main statement: with the expected file named
after the source, the driver removes and moves away nothing but a direct child of the destination
directory; and where the last component of a source is no name of a file, it does nothing at all.
-/
namespace BootMedia

namespace Request

/-- A text is what follows the last separator of another one: it is the longest end of it without
a separator. -/
structure IsLastComponent (whole last : List Char) : Prop where
  plain : ∀ c ∈ last, isSeparator c = false
  split : ∃ front, whole = front ++ last ∧ ∀ c ∈ front.getLast?, isSeparator c = true
  longest : ∀ tail, tail <:+ whole → (∀ c ∈ tail, isSeparator c = false) → tail <:+ last

theorem suffix_of_plain {front last tail : List Char}
    (hfront : ∀ c ∈ front.getLast?, isSeparator c = true) (htail : tail <:+ front ++ last)
    (hplain : ∀ c ∈ tail, isSeparator c = false) : tail <:+ last := by
  rcases List.suffix_or_suffix_of_suffix htail (List.suffix_append front last) with
    hinside | ⟨middle, rfl⟩
  · exact hinside
  obtain ⟨before, hbefore⟩ := htail
  rw [← List.append_assoc] at hbefore
  obtain rfl := List.append_cancel_right hbefore
  rcases List.eq_nil_or_concat' middle with rfl | ⟨rest, c, rfl⟩
  · exact List.suffix_refl last
  -- The end reaches into the front, and so holds the separator that the front ends in.
  · have hstop := hfront c (by simp [← List.append_assoc])
    have hgoes := hplain c (by simp)
    exact Bool.noConfusion (hstop.symm.trans hgoes)

variable (r : Request)

theorem sourceName_eq_rtakeWhile :
    r.sourceName = r.src.rtakeWhile fun c => !isSeparator c := rfl

theorem exists_front :
    ∃ front, r.src = front ++ r.sourceName ∧ ∀ c ∈ front.getLast?, isSeparator c = true := by
  let front := r.src.rdropWhile fun c => !isSeparator c
  refine ⟨front, List.rdropWhile_append_rtakeWhile.symm, fun c hc => ?_⟩
  obtain ⟨hne, rfl⟩ := List.mem_getLast?_eq_getLast hc
  have hstop := List.rdropWhile_last_not (fun c => !isSeparator c) r.src hne
  rwa [Bool.not_eq_true', Bool.not_eq_false] at hstop

theorem isLastComponent_sourceName : IsLastComponent r.src r.sourceName where
  plain := by
    intro c hc
    rw [sourceName_eq_rtakeWhile] at hc
    have hplain := List.mem_rtakeWhile_imp hc
    rwa [Bool.not_eq_true'] at hplain
  split := r.exists_front
  longest := by
    obtain ⟨front, hsplit, hfront⟩ := r.exists_front
    intro tail htail hplain
    rw [hsplit] at htail
    exact suffix_of_plain hfront htail hplain

def Nameless (r : Request) : Prop := r.sourceName ∈ [[], ['.'], ['.', '.']]

/-- A place is that of the source's name in the directory to which the destination directory
leads. -/
def IsChild (r : Request) (t : Tree) (directory place : Location) : Prop :=
  ¬ r.Nameless ∧ ∃ inside,
    t.findDirectory directory r.destinationDir = .ok inside ∧ place = r.sourceName :: inside

theorem isAbsolute_sourceName : PathText.isAbsolute r.sourceName = false :=
  PathText.isAbsolute_of_not_mem r.slash_not_mem_sourceName

end Request

namespace ExpectedOutput

variable (r : Request)

theorem path_sourceName : sourceName.path r =
    r.destinationDir ++ (if r.destinationDir.endsWithSlash then [] else ['/']) ++ r.sourceName := by
  have hempty : r.destinationDir.isEmpty = false := by simpa using r.destinationDir_ne_nil
  simp only [path, fileName, PathText.join, r.isAbsolute_sourceName, hempty, Bool.false_or,
    Bool.false_eq_true, if_false]
  split <;> simp

theorem pieces_path_sourceName : (sourceName.path r).pieces =
    r.destinationDir.pieces ++ if r.sourceName.isEmpty then [] else [r.sourceName] := by
  rw [path, fileName, PathText.pieces_join r.destinationDir_ne_nil r.isAbsolute_sourceName,
    PathText.pieces_singleton r.slash_not_mem_sourceName]

theorem start_path_sourceName (directory : Location) :
    (sourceName.path r).start directory = r.destinationDir.start directory :=
  PathText.start_join r.destinationDir_ne_nil r.isAbsolute_sourceName directory

variable {r} {t : Tree} {directory place : Location}

/-- A file is found as the expected one only where it is a direct child of the destination
directory. -/
theorem isChild_of_find (ht : t.Rooted) (hdirectory : t.get? directory = some .directory)
    {contents : Bytes} {executable : Bool}
    (hfind : t.find directory (sourceName.path r) = .ok (place, .file contents executable)) :
    r.IsChild t directory place := by
  have hne := r.destinationDir_ne_nil
  have hrelative := r.isAbsolute_sourceName
  obtain ⟨outer, name, rfl, hspot, -⟩ := (Tree.find_eq_file ht hdirectory).mp hfind
  obtain ⟨husable, hdot, hup, hslash, way, hway, henter⟩ := Tree.spot_eq_named.mp hspot
  have hfull : r.sourceName.isEmpty = false := by
    rw [path, fileName, PathText.endsWithSlash_join hne hrelative, Bool.or_eq_false_iff] at hslash
    exact hslash.1
  rw [pieces_path_sourceName, hfull] at hway
  obtain ⟨rfl, hname⟩ := List.append_inj' hway rfl
  obtain rfl := List.singleton_inj.mp hname
  rw [start_path_sourceName] at henter
  refine ⟨?_, outer, ?_, rfl⟩
  · simpa [Request.Nameless, hdot, hup] using hfull
  · have hparts := husable.parts_of_join hne (by simpa [fileName] using hfull) hrelative
    exact ht.findDirectory_of_enter hdirectory hparts.1 henter

theorem enter_path_of_nameless (hname : r.Nameless) {inside : Location}
    (hinside : t.findDirectory directory r.destinationDir = .ok inside) :
    ∃ reached, t.enter ((sourceName.path r).start directory) (sourceName.path r).pieces =
      .ok reached := by
  obtain ⟨henter, -⟩ := Tree.enter_of_findDirectory hinside
  simp only [Request.Nameless, List.mem_cons, List.not_mem_nil, or_false] at hname
  simp only [pieces_path_sourceName, start_path_sourceName, Tree.enter_append]
  rcases hname with hname | hname | hname
  · exact ⟨inside, inside, henter, by simp [hname, Tree.enter]⟩
  · exact ⟨inside, inside, henter, by simp [hname, Tree.enter]⟩
  · exact ⟨inside.tail, inside, henter, by simp [hname, Tree.enter]⟩

end ExpectedOutput

namespace Archiver

variable {program : PathText} {r : Request} {start final : Host} {ready left : Tree}
  {result : Except ExtractError Unit}

/-- What a call removes is a direct child of the destination directory, and so is what it moves
away. What it changes else is the file it brings to the destination. -/
structure Confined (r : Request) (start : Host) (ready left final : Tree) : Prop where
  removed : ∀ l, ready.get? l ≠ start.tree.get? l → r.IsChild start.tree start.directory l
  movedAway : ∀ l, left.get? l ≠ none → final.get? l = none → r.IsChild left start.directory l
  changed : ∀ l, final.get? l ≠ left.get? l →
    r.IsChild left start.directory l ∨ ∃ contents executable,
      final.find start.directory r.dst = .ok (l, .file contents executable)

theorem Framed.confined (hs : start.Sound)
    (h : Framed .sourceName r start result final ready left) :
    Confined r start ready left final.tree := by
  obtain ⟨hleft, hkeeps⟩ := keeps_of_left hs h.cleared h.worked
  have hchanged (l : Location) (hl : final.tree.get? l ≠ left.get? l) :
      r.IsChild left start.directory l ∨ ∃ contents executable,
        final.tree.find start.directory r.dst = .ok (l, .file contents executable) := by
    cases result with
    | error reason => exact absurd (congrArg (Tree.get? · l) (h.failed reason rfl)) hl
    | ok _ =>
      obtain ⟨place, goal, contents, executable, hmoved, -⟩ := h.moved rfl
      have hplace : l = place ∨ l = goal := by
        by_contra hother
        exact hl (hmoved.rest hother)
      rcases hplace with rfl | rfl
      · exact Or.inl (ExpectedOutput.isChild_of_find hleft (hkeeps _ hs.standing) hmoved.found)
      · exact Or.inr ⟨contents, executable, hmoved.brought⟩
  refine ⟨fun l hl => ?removed, fun l hl hgone => ?movedAway, hchanged⟩
  case removed =>
    cases h.cleared with
    | same => exact absurd rfl hl
    | @gone _ place _ _ hfile _ hrest =>
      have hplace : l = place := by
        by_contra hother
        exact hl (hrest hother)
      rw [hplace]
      exact ExpectedOutput.isChild_of_find hs.rooted hs.standing hfile
  case movedAway =>
    rcases hchanged l (fun hsame => hl (hsame.symm.trans hgone)) with hchild | ⟨_, _, hfind⟩
    · exact hchild
    · rw [Tree.get?_of_find hfind] at hgone
      nomatch hgone

section Nameless

theorem cleared_of_nameless (hs : start.Sound) (hname : r.Nameless) :
    cleared .sourceName r start = start := by
  cases hremove : start.tree.removeFile start.directory (ExpectedOutput.sourceName.path r) with
  | error cause => exact cleared_of_error hremove
  | ok tree =>
    obtain ⟨_, _, _, hfind, -⟩ := (Tree.removeFile_eq_ok_iff hs.rooted hs.standing).mp hremove
    exact absurd hname (ExpectedOutput.isChild_of_find hs.rooted hs.standing hfind).1

/-- Without a name the archiver is not started: where its directory is there, the removal fails
because of that directory. -/
theorem not_started_of_nameless (hs : start.Sound) (hname : r.Nameless) {run : Run} {ran : Host} :
    ¬ Started program .sourceName r start run ran := by
  intro hstarted
  obtain ⟨_, inside, hinside, -⟩ := hstarted.launches
  rw [cleared_of_nameless hs hname] at hinside
  obtain ⟨reached, hreached⟩ := ExpectedOutput.enter_path_of_nameless hname hinside
  exact hstarted.not_enter reached hreached

/-- Without a name a call leaves everything as it is, and ends early. -/
theorem Ends.of_nameless (hs : start.Sound) (hname : r.Nameless)
    (hends : Ends Run.leave program .sourceName r start result final) :
    final = start ∧
      ((∃ cause, result = .error (.staleOutput (ExpectedOutput.sourceName.path r) cause)) ∨
        ∃ cause, result = .error (.launch program cause)) := by
  cases hends with
  | stale hremove hcause => exact ⟨rfl, Or.inl ⟨_, rfl⟩⟩
  | notStarted hclear hlaunch => exact ⟨cleared_of_nameless hs hname, Or.inr ⟨_, rfl⟩⟩
  | failed hstarted hstatus => exact absurd hstarted (not_started_of_nameless hs hname)
  | missing hstarted hstatus hfile => exact absurd hstarted (not_started_of_nameless hs hname)
  | notMoved hstarted hstatus hfile hmove =>
    exact absurd hstarted (not_started_of_nameless hs hname)
  | moved hstarted hstatus hmove => exact absurd hstarted (not_started_of_nameless hs hname)

end Nameless

section Calls

theorem extract_of_nameless (locator : Activity Host (Option PathText)) (d : Desk)
    (hs : ((Desk.executable locator).run d).state.host.Sound) (hname : r.Nameless) :
    ((extract locator .sourceName r).run d).state.host =
        ((Desk.executable locator).run d).state.host ∧
      (((extract locator .sourceName r).run d).value = .error (.unavailable "7z") ∨
        (∃ cause, ((extract locator .sourceName r).run d).value =
          .error (.staleOutput (ExpectedOutput.sourceName.path r) cause)) ∨
        ∃ program cause, ((extract locator .sourceName r).run d).value =
          .error (.launch program cause)) := by
  cases hfound : ((Desk.executable locator).run d).value with
  | none =>
    obtain ⟨hvalue, hstate⟩ := run_extract_of_none .sourceName r hfound
    exact ⟨congrArg Desk.host hstate, Or.inl hvalue⟩
  | some program =>
    have hends := ends_extract Run.leave locator .sourceName r d hfound
    obtain ⟨hsame, hearly⟩ := hends.of_nameless hs hname
    refine ⟨hsame, Or.inr ?_⟩
    rcases hearly with hstale | ⟨cause, hlaunch⟩
    · exact Or.inl hstale
    · exact Or.inr ⟨program, cause, hlaunch⟩

/-- Whatever the source says, its name is what follows its last separator, and the expected file
of that name is the only one that a call removes or moves away: a direct child of the destination
directory. Where this name is empty or stands for a directory, the call fails before the archiver
is started and leaves everything as it is. -/
theorem extract_confined_to_destination (locator : Activity Host (Option PathText)) (r : Request)
    (d : Desk) (hlocator : locator.OnlyLooks) (hd : d.host.Sound) :
    let result := ((extract locator .sourceName r).run d).value
    let final := ((extract locator .sourceName r).run d).state.host
    let output := ExpectedOutput.sourceName.path r
    Request.IsLastComponent r.src r.sourceName ∧
      output = r.destinationDir ++
        (if r.destinationDir.endsWithSlash then [] else ['/']) ++ r.sourceName ∧
      (∃ ready left, Framed .sourceName r d.host result final ready left ∧
        Confined r d.host ready left final.tree) ∧
      (r.Nameless → result ≠ .ok () ∧ final = d.host ∧
        (result = .error (.unavailable "7z") ∨
          (∃ cause, result = .error (.staleOutput output cause)) ∨
          ∃ program cause, result = .error (.launch program cause))) := by
  intro result final output
  have hhost := host_executable hlocator d
  have hstart : ((Desk.executable locator).run d).state.host.Sound := hhost.symm ▸ hd
  refine ⟨r.isLastComponent_sourceName, ExpectedOutput.path_sourceName r, ?framed, fun hname => ?_⟩
  case framed =>
    have hframed := framed_extract locator .sourceName r d hstart
    rw [hhost] at hframed
    obtain ⟨ready, left, hframed⟩ := hframed
    exact ⟨ready, left, hframed, hframed.confined hd⟩
  obtain ⟨hsame, hearly⟩ := extract_of_nameless locator d hstart hname
  refine ⟨fun hok => ?_, hsame.trans hhost, hearly⟩
  rcases hearly with hfail | ⟨_, hfail⟩ | ⟨_, _, hfail⟩
  · nomatch hok.symm.trans hfail
  · nomatch hok.symm.trans hfail
  · nomatch hok.symm.trans hfail

/-- A source that ends in a step upward leaves the host as it is. -/
theorem extract_confined_to_destination_upward :
    let host := hostWith ['a'] ⟨[.writeFile ['a'] [2]], .exited 0, []⟩
    let locator := ArchiverSearch.locate (some ['/', 'w', '/', '7', 'z'])
    let r : Request := ⟨['i'], 1, ['W', '\\', 'a', '/', '.', '.'], ['b']⟩
    let reply := (extract locator .sourceName r).run ⟨host, none⟩
    locator.OnlyLooks ∧ host.Sound ∧ r.Nameless ∧ reply.state.host = host ∧
      reply.value = .error (.staleOutput ['.', '/', '.', '.'] Fault.isDirectory) := by
  intro host locator r reply
  have hlocator : locator.OnlyLooks := ArchiverSearch.onlyLooks_locate _
  have hhost : host.Sound := sound_hostWith _ _
  have hname : r.Nameless := by
    unfold Request.Nameless
    decide
  have hstale : reply.value = .error (.staleOutput ['.', '/', '.', '.'] Fault.isDirectory) := by
    decide +kernel
  obtain ⟨-, -, -, hnothing⟩ :=
    extract_confined_to_destination locator r ⟨host, none⟩ hlocator hhost
  obtain ⟨-, hsame, -⟩ := hnothing hname
  exact ⟨hlocator, hhost, hname, hsame, hstale⟩

end Calls

end Archiver

end BootMedia
