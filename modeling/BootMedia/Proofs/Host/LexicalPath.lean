import BootMedia.Proofs.Host.Walk
import BootMedia.Proofs.PathComponents
import Mathlib

/-!
The absolute form of a path, which follows from its text and the current directory alone. Main
statements: it is the root and the names from there on with one slash between them, and from
whatever directory it is followed, it leads to what the path led to from the current one.
-/
namespace BootMedia

/-- A text that can stand between two slashes as a name. -/
structure PlainName (name : Name) : Prop where
  nonempty : name ≠ []
  noSlash : '/' ∉ name

namespace PathText

variable {directory : Location} {p base : PathText} {names : List Name} {name : Name}

section Text

theorem intercalate_concat (hnames : names ≠ []) (name : Name) :
    ['/'].intercalate (names ++ [name]) = ['/'].intercalate names ++ '/' :: name := by
  induction names with
  | nil => exact absurd rfl hnames
  | cons first rest ih =>
    cases rest with
    | nil => simp [List.intercalate_cons_of_ne_nil, List.intercalate_singleton]
    | cons second rest =>
      rw [List.cons_append, List.intercalate_cons_of_ne_nil (by simp),
        List.intercalate_cons_of_ne_nil (by simp), ih (by simp)]
      simp

theorem endsWithSlash_append_name (front : PathText) (hname : PlainName name) :
    (front ++ name).endsWithSlash = false := by
  rw [Bool.eq_false_iff]
  intro hslash
  obtain ⟨more, hmore⟩ := endsWithSlash_iff.mp hslash
  have hlast := congrArg List.getLast? hmore
  rw [List.getLast?_append_of_ne_nil front hname.nonempty, List.getLast?_concat] at hlast
  exact hname.noSlash (List.mem_of_getLast? hlast)

theorem endsWithSlash_append_intercalate (base : PathText) (hnames : names ≠ [])
    (hplain : ∀ name ∈ names, PlainName name) :
    (base ++ ['/'].intercalate names).endsWithSlash = false := by
  obtain ⟨front, last, rfl⟩ := (List.eq_nil_or_concat' names).resolve_left hnames
  have hlast := hplain last (by simp)
  by_cases hfront : front = []
  · subst hfront
    simpa [List.intercalate_singleton] using endsWithSlash_append_name base hlast
  · rw [intercalate_concat hfront, ← List.append_assoc, List.append_cons]
    exact endsWithSlash_append_name _ hlast

theorem foldl_join (hbase : base.endsWithSlash = true)
    (hplain : ∀ name ∈ names, PlainName name) :
    names.foldl join base = base ++ ['/'].intercalate names := by
  -- The last name is joined last: whether a slash has to come before it is seen from the rest.
  induction names using List.reverseRecOn with
  | nil => simp
  | append_singleton front last ih =>
    have hfront : ∀ name ∈ front, PlainName name :=
      fun name hname => hplain name (List.mem_append_left _ hname)
    have hlast := hplain last (by simp)
    have hrelative := isAbsolute_of_not_mem hlast.noSlash
    rw [List.foldl_concat, ih hfront]
    by_cases hnil : front = []
    · subst hnil
      simp [join, hrelative, hbase, List.intercalate_singleton]
    · have hopen := endsWithSlash_append_intercalate base hnil hfront
      have hne : base ≠ [] := by
        rintro rfl
        exact absurd hbase (by decide)
      rw [intercalate_concat hnil]
      simp [join, hrelative, hopen, hne]

end Text

theorem path_eq (l : Location) : l.path = '/' :: ['/'].intercalate l.reverse := by
  have hfold (l : Location) (hl : l ≠ []) (behind : PathText) :
      l.foldl (fun tail name => '/' :: name ++ tail) behind =
        '/' :: ['/'].intercalate l.reverse ++ behind := by
    induction l generalizing behind with
    | nil => exact absurd rfl hl
    | cons name outer ih =>
      rw [List.foldl_cons, List.reverse_cons]
      by_cases houter : outer = []
      · subst houter
        simp [List.intercalate_singleton]
      · rw [ih houter, intercalate_concat (by simpa using houter)]
        simp
  cases l with
  | nil => rfl
  | cons name outer =>
    exact (hfold (name :: outer) (List.cons_ne_nil _ _) []).trans (List.append_nil _)

/-- What a path means, from the root on: the names of the current directory if it is relative, and
its own pieces, without empty ones and lone dots. -/
def namesFromRoot (directory : Location) (p : PathText) : List Name :=
  (if p.head? = some '/' then [] else directory.reverse) ++
    (p.splitOn '/').filter fun piece => piece != [] && piece != ['.']

def rootText (p : PathText) : PathText :=
  if ['/', '/'] <+: p ∧ ¬ ['/', '/', '/'] <+: p then ['/', '/'] else ['/']

/-- The absolute form of a path by its text: the root, and the names from there on with one slash
between them. A slash at the end stays, if anything stands before it. -/
def lexicalForm (directory : Location) (p : PathText) : PathText :=
  p.rootText ++ ['/'].intercalate (namesFromRoot directory p) ++
    if p.getLast? = some '/' ∧ namesFromRoot directory p ≠ [] then ['/'] else []

section Form

theorem startsWithTwoSlashes_iff :
    p.startsWithTwoSlashes = true ↔ ['/', '/'] <+: p ∧ ¬ ['/', '/', '/'] <+: p := by
  fun_cases startsWithTwoSlashes p with
  | case1 => simp
  | case2 c rest => simp [@eq_comm Char '/' c]
  | case3 p hno hnone =>
    simp only [Bool.false_eq_true, false_iff]
    rintro ⟨⟨rest, rfl⟩, -⟩
    cases rest with
    | nil => exact hno rfl
    | cons c rest => exact hnone c rest rfl

theorem plainName_of_mem_namesFromRoot (hdirectory : ∀ name ∈ directory, PlainName name) :
    ∀ name ∈ namesFromRoot directory p, PlainName name := by
  intro name hname
  rcases List.mem_append.mp hname with houter | hinner
  · split at houter
    · exact absurd houter List.not_mem_nil
    · exact hdirectory name (List.mem_reverse.mp houter)
  · obtain ⟨hmem, hsolid⟩ := List.mem_filter.mp hinner
    rw [← fields_eq_splitOn] at hmem
    rw [Bool.and_eq_true, bne_iff_ne] at hsolid
    exact ⟨hsolid.1, separator_not_mem_fields hmem⟩

theorem endsWithSlash_rootText (p : PathText) : p.rootText.endsWithSlash = true := by
  unfold rootText
  split <;> rfl

theorem foldl_join_rootText (hdirectory : ∀ name ∈ directory, PlainName name) :
    (if p.head? = some '/' then [] else directory.reverse).foldl join p.rootText =
      if p.startsWithTwoSlashes then ['/', '/']
      else if p.isAbsolute then ['/'] else directory.path := by
  by_cases htwo : p.startsWithTwoSlashes = true
  · have hroot := startsWithTwoSlashes_iff.mp htwo
    obtain ⟨rest, hrest⟩ := hroot.1
    have hhead : p.head? = some '/' := by simp [← hrest]
    simp only [rootText, hroot, hhead, htwo, not_false_eq_true, and_self, if_true, List.foldl_nil]
  · have hroot : p.rootText = ['/'] := if_neg (mt startsWithTwoSlashes_iff.mpr htwo)
    rw [if_neg htwo, hroot]
    by_cases hhead : p.head? = some '/'
    · simp [isAbsolute, hhead]
    · have hplain : ∀ name ∈ directory.reverse, PlainName name :=
        fun name hname => hdirectory name (List.mem_reverse.mp hname)
      rw [if_neg hhead, if_neg (by simpa [isAbsolute] using hhead), foldl_join rfl hplain, path_eq]
      rfl

/-- The absolute form that is made step by step is the one that the text determines. -/
theorem absolute?_eq (hp : p ≠ []) (hdirectory : ∀ name ∈ directory, PlainName name) :
    absolute? directory.path p = some (lexicalForm directory p) := by
  have hplain : ∀ name ∈ namesFromRoot directory p, PlainName name :=
    plainName_of_mem_namesFromRoot hdirectory
  have hwhole : p.solidPieces.foldl join
      (if p.startsWithTwoSlashes then ['/', '/']
        else if p.isAbsolute then ['/'] else directory.path) =
      p.rootText ++ ['/'].intercalate (namesFromRoot directory p) := by
    rw [← foldl_join p.endsWithSlash_rootText hplain, namesFromRoot, List.foldl_append,
      foldl_join_rootText hdirectory, solidPieces, fields_eq_splitOn]
  have hempty : p.isEmpty = false := by simpa using hp
  simp only [absolute?, hempty, hwhole, Bool.false_eq_true, if_false, lexicalForm]
  by_cases hnames : namesFromRoot directory p = []
  · simp [hnames, endsWithSlash_rootText]
  · have hopen := endsWithSlash_append_intercalate p.rootText hnames hplain
    have hends : p.endsWithSlash = true ↔ p.getLast? = some '/' := beq_iff_eq
    by_cases hslash : p.getLast? = some '/'
    · simp only [hends.mpr hslash, hopen, hslash, hnames, Bool.not_false, Bool.and_self, ne_eq,
        not_false_eq_true, and_self, if_true]
    · simp only [Bool.eq_false_iff.mpr (mt hends.mp hslash), hslash, Bool.false_and,
        Bool.false_eq_true, false_and, if_false, List.append_nil]

/-- Steps upward stay, and so does the slash at the end. -/
example : lexicalForm ["d".toList, "w".toList] "./a//../.b/./".toList = "/w/d/a/../.b/".toList := by
  decide

end Form

section Pieces

theorem isAbsolute_lexicalForm (directory : Location) (p : PathText) :
    (lexicalForm directory p).isAbsolute = true := by
  unfold lexicalForm rootText
  split <;> rfl

theorem endsWithSlash_lexicalForm (hdirectory : ∀ name ∈ directory, PlainName name) :
    (lexicalForm directory p).endsWithSlash =
      (p.endsWithSlash || (namesFromRoot directory p).isEmpty) := by
  unfold lexicalForm
  by_cases hnames : namesFromRoot directory p = []
  · simp [hnames, endsWithSlash_rootText]
  · have hopen := endsWithSlash_append_intercalate p.rootText hnames
      (plainName_of_mem_namesFromRoot hdirectory)
    by_cases hslash : p.getLast? = some '/'
    · simp [hnames, hslash, endsWithSlash]
    · rw [if_neg fun h => hslash h.1, List.append_nil, hopen]
      simp [hnames, hslash, endsWithSlash]

theorem pieces_rootText (p : PathText) : p.rootText.pieces = [] := by
  unfold rootText
  split <;> rfl

theorem pieces_intercalate (hplain : ∀ name ∈ names, PlainName name) :
    pieces (['/'].intercalate names) = names := by
  by_cases hnames : names = []
  · subst hnames
    rfl
  · rw [pieces, fields_eq_splitOn,
      List.splitOn_intercalate '/' (fun name hname => (hplain name hname).noSlash) hnames,
      List.filter_eq_self]
    exact fun name hname => by simpa using (hplain name hname).nonempty

/-- The pieces of the absolute form are the names from the root. -/
theorem pieces_lexicalForm (hdirectory : ∀ name ∈ directory, PlainName name) :
    (lexicalForm directory p).pieces = namesFromRoot directory p := by
  obtain ⟨front, hfront⟩ := endsWithSlash_iff.mp p.endsWithSlash_rootText
  have hwhole : pieces (p.rootText ++ ['/'].intercalate (namesFromRoot directory p)) =
      namesFromRoot directory p := by
    have hroot : front.pieces = [] := by
      have hnone := p.pieces_rootText
      rw [hfront, pieces_append_slash] at hnone
      exact (List.append_eq_nil_iff.mp hnone).1
    rw [hfront, List.append_assoc, List.singleton_append, pieces_append_slash, hroot,
      pieces_intercalate (plainName_of_mem_namesFromRoot hdirectory), List.nil_append]
  unfold lexicalForm
  split
  · rw [pieces_append_slash, hwhole]
    exact List.append_nil _
  · rw [List.append_nil, hwhole]

theorem namesFromRoot_eq (directory : Location) (p : PathText) :
    namesFromRoot directory p =
      (p.start directory).reverse ++ p.pieces.filter fun piece => piece != ['.'] := by
  have hpieces : (p.splitOn '/').filter (fun piece => piece != [] && piece != ['.']) =
      p.pieces.filter fun piece => piece != ['.'] := by
    rw [← fields_eq_splitOn]
    exact solidPieces_eq_filter p
  rw [namesFromRoot, hpieces, start, isAbsolute]
  by_cases hhead : p.head? = some '/' <;> simp [hhead]

end Pieces

end PathText

namespace Tree

open PathText

variable {t : Tree} {directory reached : Location} {p : PathText}

theorem enter_of_path (hdirectory : ∀ name ∈ directory, PlainName name)
    (hcurrent : t.findDirectory [] directory.path = .ok directory) :
    t.enter [] directory.reverse = .ok directory := by
  obtain ⟨henter, -⟩ := enter_of_findDirectory hcurrent
  have hpieces : directory.path.pieces = directory.reverse := by
    have hplain : ∀ name ∈ directory.reverse, PlainName name :=
      fun name hname => hdirectory name (List.mem_reverse.mp hname)
    rw [path_eq, ← List.nil_append ('/' :: _), pieces_append_slash, pieces_intercalate hplain]
    rfl
  rw [hpieces, PathText.start, ite_self] at henter
  exact henter

/-- The names from the root lead on to where pieces lead from the start of the path. -/
theorem enter_from_root (hdirectory : ∀ name ∈ directory, PlainName name)
    (hcurrent : t.findDirectory [] directory.path = .ok directory) {ps : List Name}
    (hps : t.enter (p.start directory) ps = .ok reached) :
    t.enter [] ((p.start directory).reverse ++ ps.filter fun piece => piece != ['.']) =
      .ok reached := by
  rw [enter_append]
  refine ⟨p.start directory, ?_, by rw [enter_filter_here, hps]⟩
  unfold PathText.start
  split
  · rfl
  · exact enter_of_path hdirectory hcurrent

/-- What a path leads to from the current directory, its absolute form leads to from everywhere,
if the system looks up a text as long as that. -/
theorem Rooted.find_lexicalForm (ht : t.Rooted) (hdirectory : ∀ name ∈ directory, PlainName name)
    (hcurrent : t.findDirectory [] directory.path = .ok directory)
    (husable : (lexicalForm directory p).Usable) {place : Location} {node : Node}
    (hfind : t.find directory p = .ok (place, node)) (inside : Location) :
    t.find inside (lexicalForm directory p) = .ok (place, node) := by
  have hstands := (enter_of_findDirectory hcurrent).2
  have habsolute := isAbsolute_lexicalForm directory p
  have hstart : (lexicalForm directory p).start [] = [] := by
    simp only [PathText.start, ite_self]
  rw [find_of_isAbsolute habsolute inside []]
  cases node with
  | directory =>
    have hfound : t.findDirectory directory p = .ok place := by
      simp only [findDirectory, hfind]
    obtain ⟨henter, -⟩ := enter_of_findDirectory hfound
    refine find_of_findDirectory (ht.findDirectory_of_enter rfl husable ?_)
    rw [hstart, pieces_lexicalForm hdirectory, namesFromRoot_eq]
    exact enter_from_root hdirectory hcurrent henter
  -- A path to a file ends in the name of the file, so that neither a dot nor a slash at the end
  -- is lost.
  | file contents executable =>
    obtain ⟨outer, name, rfl, hspot, hchild⟩ := (find_eq_file ht hstands).mp hfind
    obtain ⟨-, hdot, hup, hslash, way, hway, henter⟩ := spot_eq_named.mp hspot
    have hnames : namesFromRoot directory p =
        ((p.start directory).reverse ++ way.filter fun piece => piece != ['.']) ++ [name] := by
      rw [namesFromRoot_eq, hway, List.filter_append, List.append_assoc]
      simp [hdot]
    have hopen : (lexicalForm directory p).endsWithSlash = false := by
      rw [endsWithSlash_lexicalForm hdirectory, hslash, hnames]
      simp
    refine (find_eq_file ht rfl).mpr ⟨outer, name, rfl, spot_eq_named.mpr ?_, hchild⟩
    refine ⟨husable, hdot, hup, hopen, _, (pieces_lexicalForm hdirectory).trans hnames, ?_⟩
    rw [hstart]
    exact enter_from_root hdirectory hcurrent henter

end Tree

end BootMedia
