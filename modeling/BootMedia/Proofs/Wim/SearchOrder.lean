import BootMedia.Proofs.PathPieces
import BootMedia.Proofs.Wim.Stages
import Mathlib

/-!
Where the archiver is found. Main statement: a path that was given is taken if a file is there; if
not, the first element of the search path with a program of the preferred name below it, and only
if there is none anywhere, the first one with a program of the other name. What is not a regular
file is passed over, and a warning says that the given path was.
-/
namespace BootMedia

namespace Host

variable {h : Host} {p : PathText}

def HasFile (h : Host) (p : PathText) : Prop :=
  ∃ place contents executable,
    h.tree.find h.directory p = .ok (place, .file contents executable)

theorem isFile_iff : h.isFile p = true ↔ h.HasFile p := by
  unfold isFile Tree.isFile HasFile
  split
  · rename_i place contents executable hfind
    simp only [hfind, true_iff]
    exact ⟨place, contents, executable, rfl⟩
  · rename_i hother
    simp only [Bool.false_eq_true, false_iff, not_exists]
    exact hother

theorem isFile_eq_false_iff : h.isFile p = false ↔ ¬ h.HasFile p := by
  rw [← isFile_iff, Bool.not_eq_true]

end Host

namespace ArchiverSearch

variable {h : Host} {given found : Option PathText} {name : Name} {element : PathText}

def elements (h : Host) : List PathText := (h.searchPath.map (List.splitOn ':')).getD []

/-- An element of the search path has a file of a name below it, and none before it has. -/
def IsFirst (h : Host) (name : Name) (element : PathText) : Prop :=
  ∃ before after, elements h = before ++ element :: after ∧
    h.HasFile (element.join name) ∧ ∀ other ∈ before, ¬ h.HasFile (PathText.join other name)

/-- What there is to be found: the given path, or else a program of the preferred name, or else one
of the other name, or else nothing. -/
inductive Finds (given : Option PathText) (h : Host) : Option PathText → Prop
  | given {path : PathText} (hgiven : given = some path) (hfile : h.HasFile path) :
      Finds given h (some path)
  | preferred {element : PathText} (hgiven : ∀ path ∈ given, ¬ h.HasFile path)
      (hfirst : IsFirst h "7z".toList element) :
      Finds given h (some (element.join "7z".toList))
  | substitute {element : PathText} (hgiven : ∀ path ∈ given, ¬ h.HasFile path)
      (hnone : ∀ other ∈ elements h, ¬ h.HasFile (other.join "7z".toList))
      (hfirst : IsFirst h "7za".toList element) :
      Finds given h (some (element.join "7za".toList))
  | nothing (hgiven : ∀ path ∈ given, ¬ h.HasFile path)
      (hnone : ∀ name ∈ names, ∀ other ∈ elements h, ¬ h.HasFile (other.join name)) :
      Finds given h none

section Order

def firstElement (h : Host) (name : Name) : Option PathText :=
  (elements h).find? fun element => h.isFile (element.join name)

theorem firstElement_eq_some_iff : firstElement h name = some element ↔ IsFirst h name element := by
  simp only [firstElement, List.find?_eq_some_iff_append, Host.isFile_iff, Bool.not_eq_true',
    Host.isFile_eq_false_iff, IsFirst]
  constructor
  · rintro ⟨hfile, before, after, hsplit, hbefore⟩
    exact ⟨before, after, hsplit, hfile, hbefore⟩
  · rintro ⟨before, after, hsplit, hfile, hbefore⟩
    exact ⟨hfile, before, after, hsplit, hbefore⟩

theorem firstElement_eq_none_iff :
    firstElement h name = none ↔ ∀ other ∈ elements h, ¬ h.HasFile (other.join name) := by
  simp only [firstElement, List.find?_eq_none, Host.isFile_iff]

theorem candidates_eq :
    candidates h.searchPath = names.flatMap fun name => (elements h).map (·.join name) := by
  cases hpath : h.searchPath with
  | none => simp [candidates, elements, hpath]
  | some searchPath => simp [candidates, elements, hpath, fields_eq_splitOn]

/-- All elements are tried with the preferred name before any is tried with the other one. -/
theorem search_eq : search h =
    ((firstElement h "7z".toList).map (·.join "7z".toList)).or
      ((firstElement h "7za".toList).map (·.join "7za".toList)) := by
  simp only [search, candidates_eq, names, List.flatMap_cons, List.flatMap_nil, List.append_nil,
    List.find?_append, List.find?_map, firstElement]
  rfl

theorem value_locate :
    ((locate given).run h).value = (given.filter h.isFile).or (search h) := by
  cases given with
  | none => rfl
  | some path =>
    cases hfile : h.isFile path with
    | true => simp [locate, hfile, Option.filter_some]
    | false => simp [locate, searchHost, hfile, Option.filter_some]

theorem filter_isFile_eq_none (hgiven : ∀ path ∈ given, ¬ h.HasFile path) :
    given.filter h.isFile = none := by
  rw [Option.filter_eq_none_iff]
  intro path hpath
  rw [Host.isFile_iff]
  exact hgiven path hpath

/-- What is located is what there is to be found. -/
theorem finds_locate (given : Option PathText) (h : Host) :
    Finds given h ((locate given).run h).value := by
  rw [value_locate]
  cases hfilter : given.filter h.isFile with
  | some path =>
    obtain ⟨hgiven, hfile⟩ := Option.filter_eq_some_iff.mp hfilter
    exact .given hgiven (Host.isFile_iff.mp hfile)
  | none =>
    have hgiven : ∀ path ∈ given, ¬ h.HasFile path := by
      intro path hpath
      rw [← Host.isFile_iff]
      exact Option.filter_eq_none_iff.mp hfilter path hpath
    rw [Option.none_or, search_eq]
    cases hfirst : firstElement h "7z".toList with
    | some element => exact .preferred hgiven (firstElement_eq_some_iff.mp hfirst)
    | none =>
      have hnone := firstElement_eq_none_iff.mp hfirst
      cases hsecond : firstElement h "7za".toList with
      | some element => exact .substitute hgiven hnone (firstElement_eq_some_iff.mp hsecond)
      | none =>
        refine .nothing hgiven fun name hname => ?_
        simp only [names, List.mem_cons, List.not_mem_nil, or_false] at hname
        rcases hname with rfl | rfl
        · exact hnone
        · exact firstElement_eq_none_iff.mp hsecond

theorem Finds.value (hfinds : Finds given h found) : ((locate given).run h).value = found := by
  rw [value_locate]
  cases hfinds with
  | given hgiven hfile =>
    rw [hgiven, Option.filter_some, if_pos (Host.isFile_iff.mpr hfile), Option.some_or]
  | preferred hgiven hfirst =>
    rw [filter_isFile_eq_none hgiven, search_eq, firstElement_eq_some_iff.mpr hfirst]
    rfl
  | substitute hgiven hnone hfirst =>
    rw [filter_isFile_eq_none hgiven, search_eq, firstElement_eq_none_iff.mpr hnone,
      firstElement_eq_some_iff.mpr hfirst]
    rfl
  | nothing hgiven hnone =>
    rw [filter_isFile_eq_none hgiven, search_eq, firstElement_eq_none_iff.mpr (hnone _ (by decide)),
      firstElement_eq_none_iff.mpr (hnone _ (by decide))]
    rfl

end Order

theorem join_nil_name (hname : name ∈ names) : PathText.join [] name = name := by
  have hall : ∀ name ∈ names, PathText.join [] name = name := by decide
  exact hall name hname

theorem hasFile_name_iff (hname : name ∈ names) :
    h.HasFile name ↔ ∃ contents executable,
      h.tree.get? (name :: h.directory) = some (.file contents executable) := by
  have hall : ∀ name ∈ names, hasNul name = false ∧ byteLength name ≤ longestName ∧
      name ≠ ['.'] ∧ name ≠ ['.', '.'] ∧ PathText.endsWithSlash name = false ∧
      PathText.pieces name = [] ++ [name] ∧ PathText.isAbsolute name = false ∧ name ≠ [] := by
    decide
  obtain ⟨hnul, hshort, hdot, hup, hslash, hpieces, hrelative, hne⟩ := hall name hname
  have husable : PathText.Usable name :=
    ⟨hnul, by simpa using hne, Nat.lt_of_le_of_lt hshort (by decide)⟩
  have hspot : h.tree.spot h.directory name = .ok (.named h.directory name false) := by
    refine Tree.spot_eq_named.mpr ⟨husable, hdot, hup, hslash, [], hpieces, ?_⟩
    simp only [Tree.enter, PathText.start, hrelative, Bool.false_eq_true, if_false]
  have hchild : h.tree.child h.directory name = .ok (h.tree.get? (name :: h.directory)) :=
    if_neg (Nat.not_lt_of_le hshort)
  simp only [Host.HasFile, Tree.find, hspot, hchild]
  cases h.tree.get? (name :: h.directory) with
  | none => simp
  | some node => cases node <;> simp

/-- A search without success at the given path says so, and then what it found. -/
theorem notices_locate :
    ((locate given).run h).notices =
      if (given.filter h.isFile).isSome then []
      else given.toList.map .archiverMissing ++ [.archiverFound (search h)] := by
  cases given with
  | none => rfl
  | some path =>
    cases hfile : h.isFile path with
    | true => simp [locate, hfile, Option.filter_some]
    | false => simp [locate, searchHost, hfile, Option.filter_some]

theorem mem_warnings_locate {n : Notice} :
    n ∈ ((locate given).run h).notices ∧ n.level = .warn ↔
      ∃ path, given = some path ∧ ¬ h.HasFile path ∧ n = .archiverMissing path := by
  rw [notices_locate]
  constructor
  · rintro ⟨hmem, hlevel⟩
    split at hmem
    · exact absurd hmem List.not_mem_nil
    rename_i hgiven
    rcases List.mem_append.mp hmem with hmissing | hfound
    · obtain ⟨path, hpath, rfl⟩ := List.mem_map.mp hmissing
      obtain rfl := Option.mem_toList.mp hpath
      refine ⟨path, rfl, fun hfile => ?_, rfl⟩
      rw [Option.filter_some, if_pos (Host.isFile_iff.mpr hfile)] at hgiven
      exact hgiven rfl
    · obtain rfl := List.mem_singleton.mp hfound
      nomatch hlevel
  · rintro ⟨path, rfl, hfile, rfl⟩
    rw [Option.filter_some, if_neg (mt Host.isFile_iff.mp hfile)]
    exact ⟨List.mem_append_left _ (List.mem_singleton.mpr rfl), rfl⟩

/-- A search ends exactly as the order of places says: with the given path if a file is there, else
with the first program of the preferred name along the search path, else with the first one of the
other name, else with nothing. So a program of the preferred name anywhere wins over all of the
other name. An empty element stands for the current directory, a warning says exactly that the given
path was passed over, and the host stays as it is. -/
theorem locate_in_order (given : Option PathText) (h : Host) :
    (∀ found, ((locate given).run h).value = found ↔ Finds given h found) ∧
    ((∀ path ∈ given, ¬ h.HasFile path) →
      (∃ element ∈ elements h, h.HasFile (element.join "7z".toList)) →
      ∃ element, IsFirst h "7z".toList element ∧
        ((locate given).run h).value = some (element.join "7z".toList)) ∧
    (∀ name ∈ names, PathText.join [] name = name ∧
      (h.HasFile name ↔ ∃ contents executable,
        h.tree.get? (name :: h.directory) = some (.file contents executable))) ∧
    (∀ n, n ∈ ((locate given).run h).notices ∧ n.level = .warn ↔
      ∃ path, given = some path ∧ ¬ h.HasFile path ∧ n = .archiverMissing path) ∧
    ((locate given).run h).state = h := by
  refine ⟨fun found => ⟨?_, Finds.value⟩, ?preferred, ?bareName, fun n => mem_warnings_locate,
    onlyLooks_locate given h⟩
  · rintro rfl
    exact finds_locate given h
  case preferred =>
    rintro hgiven ⟨element, helement, hfile⟩
    cases hfirst : firstElement h "7z".toList with
    | none => exact absurd hfile (firstElement_eq_none_iff.mp hfirst element helement)
    | some first =>
      have hisFirst := firstElement_eq_some_iff.mp hfirst
      exact ⟨first, hisFirst, Finds.value (.preferred hgiven hisFirst)⟩
  case bareName =>
    intro name hname
    exact ⟨join_nil_name hname, hasFile_name_iff hname⟩

/-- An empty element counts, a directory of the name is passed over, and the preferred name wins
although the other one is found earlier. -/
example :
    let tree := ((Tree.empty.put [['a']] .directory).put [['7', 'z'], ['a']] .directory).put
      [['7', 'z', 'a'], ['a']] (.file [] true)
    let host : Host := ⟨tree.put [['7', 'z']] (.file [] true), [], some "/a::/a".toList,
      fun _ => ⟨[], .exited 0, []⟩, []⟩
    ((locate none).run host).value = some "7z".toList := by decide +kernel

end ArchiverSearch

end BootMedia
