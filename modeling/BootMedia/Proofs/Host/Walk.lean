import BootMedia.Proofs.Host.Rooted
import Mathlib

/-!
Following pieces through a tree, and the spots and directories that paths lead to. The checks of a
path's text are the same in all trees, so a path that leads to a spot in one tree leads to the same
one wherever its directories still are. Main statement: a path below a directory leads to a spot
at which something stands whenever it leads there later, unless it goes upward on the way.
-/
namespace BootMedia

namespace PathText

/-- The text of a path is one that the system looks up. -/
structure Usable (p : PathText) : Prop where
  noNul : hasNul p = false
  nonempty : p.isEmpty = false
  short : byteLength p < pathLimit

end PathText

namespace Tree

variable {t t' : Tree} {directory reached : Location}

theorem enter_cons_eq_ok {piece : Name} {rest : List Name} :
    t.enter directory (piece :: rest) = .ok reached ↔
      (piece = ['.'] ∧ t.enter directory rest = .ok reached) ∨
      (piece = ['.', '.'] ∧ t.enter directory.tail rest = .ok reached) ∨
      (piece ≠ ['.'] ∧ piece ≠ ['.', '.'] ∧
        t.child directory piece = .ok (some .directory) ∧
        t.enter (piece :: directory) rest = .ok reached) := by
  by_cases hdot : piece = ['.']
  · subst hdot
    simp [enter]
  · by_cases hup : piece = ['.', '.']
    · subst hup
      simp [enter]
    · rw [enter]
      simp only [hdot, hup, if_false, false_and, false_or, ne_eq, not_false_eq_true, true_and]
      rcases hchild : t.child directory piece with cause | found
      · simp
      · rcases found with _ | (_ | _) <;> simp

/-- Where the first pieces lead, the others are followed from there; where they end in a fault, so
does the whole. -/
theorem enter_append_eq_bind (ps qs : List Name) :
    t.enter directory (ps ++ qs) = t.enter directory ps >>= fun middle => t.enter middle qs := by
  induction ps generalizing directory with
  | nil => rfl
  | cons piece ps ih =>
    simp only [List.cons_append, enter]
    split
    · exact ih
    · split
      · exact ih
      · rcases t.child directory piece with cause | (_ | (_ | ⟨contents, executable⟩))
        · rfl
        · rfl
        · exact ih
        · rfl

theorem enter_append (ps qs : List Name) :
    t.enter directory (ps ++ qs) = .ok reached ↔
      ∃ middle, t.enter directory ps = .ok middle ∧ t.enter middle qs = .ok reached := by
  rw [enter_append_eq_bind]
  cases t.enter directory ps with
  | error cause => simp [bind, Except.bind]
  | ok middle => simp [bind, Except.bind]

theorem enter_filter_here (ps : List Name) :
    t.enter directory (ps.filter fun piece => piece != ['.']) = t.enter directory ps := by
  induction ps generalizing directory with
  | nil => rfl
  | cons piece rest ih =>
    by_cases hdot : piece = ['.']
    · simp [hdot, enter, ih]
    · rw [List.filter_cons_of_pos (by simpa using hdot)]
      simp only [enter, hdot, if_false, ih]

theorem child_directory_mono (h : t.KeepsDirectories t') {name : Name}
    (hchild : t.child directory name = .ok (some .directory)) :
    t'.child directory name = .ok (some .directory) := by
  obtain ⟨hget, hother⟩ := child_eq_ok hchild
  rw [hother t', h _ hget]

theorem enter_mono (h : t.KeepsDirectories t') {ps : List Name}
    (hps : t.enter directory ps = .ok reached) : t'.enter directory ps = .ok reached := by
  induction ps generalizing directory with
  | nil => exact hps
  | cons piece ps ih =>
    rw [enter_cons_eq_ok] at hps ⊢
    rcases hps with ⟨hp, hr⟩ | ⟨hp, hr⟩ | ⟨hd, hu, hc, hr⟩
    · exact Or.inl ⟨hp, ih hr⟩
    · exact Or.inr (Or.inl ⟨hp, ih hr⟩)
    · exact Or.inr (Or.inr ⟨hd, hu, child_directory_mono h hc, ih hr⟩)

theorem Rooted.enter (ht : t.Rooted) {ps : List Name}
    (hdirectory : t.get? directory = some .directory)
    (hps : t.enter directory ps = .ok reached) : t.get? reached = some .directory := by
  induction ps generalizing directory with
  | nil =>
    cases hps
    exact hdirectory
  | cons piece ps ih =>
    rcases enter_cons_eq_ok.mp hps with ⟨_, hr⟩ | ⟨_, hr⟩ | ⟨_, _, hc, hr⟩
    · exact ih hdirectory hr
    · exact ih (ht.tail hdirectory) hr
    · exact ih (child_eq_ok hc).1 hr

theorem suffix_enter {ps : List Name} (hup : ['.', '.'] ∉ ps)
    (hps : t.enter directory ps = .ok reached) : directory <:+ reached := by
  induction ps generalizing directory with
  | nil =>
    cases hps
    exact List.suffix_refl _
  | cons piece ps ih =>
    obtain ⟨hpiece, hrest⟩ := List.ne_and_not_mem_of_not_mem_cons hup
    rcases enter_cons_eq_ok.mp hps with ⟨_, hr⟩ | ⟨hp, _⟩ | ⟨_, _, _, hr⟩
    · exact ih hrest hr
    · exact absurd hp.symm hpiece
    · exact (List.suffix_cons piece directory).trans (ih hrest hr)

theorem Rooted.enter_of_enter (ht : t.Rooted) {ps : List Name} (hup : ['.', '.'] ∉ ps)
    (hreached : t.get? reached = some .directory)
    (hps : t'.enter directory ps = .ok reached) : t.enter directory ps = .ok reached := by
  induction ps generalizing directory with
  | nil => exact hps
  | cons piece ps ih =>
    obtain ⟨hpiece, hrest⟩ := List.ne_and_not_mem_of_not_mem_cons hup
    rw [enter_cons_eq_ok] at hps ⊢
    rcases hps with ⟨hp, hr⟩ | ⟨hp, _⟩ | ⟨hd, hu, hc, hr⟩
    · exact Or.inl ⟨hp, ih hrest hr⟩
    · exact absurd hp.symm hpiece
    -- The rest leads further inward, so this piece is a directory around the one reached.
    · have hinner := ht.suffix (suffix_enter hrest hr) hreached
      have hchild := (child_eq_ok hc).2 t
      rw [hinner] at hchild
      exact Or.inr (Or.inr ⟨hd, hu, hchild, ih hrest hr⟩)

theorem spotOf_eq_named {slash slash' : Bool} {last name : Name} {outer : Location} :
    spotOf reached slash last = .named outer name slash' ↔
      last ≠ ['.'] ∧ last ≠ ['.', '.'] ∧ reached = outer ∧ last = name ∧ slash = slash' := by
  by_cases hdot : last = ['.']
  · subst hdot
    simp [spotOf]
  · by_cases hup : last = ['.', '.']
    · subst hup
      simp [spotOf]
    · simp [spotOf, hdot, hup]

theorem spot_eq_ok {p : PathText} {found : Spot} :
    t.spot directory p = .ok found ↔
      p.Usable ∧ (p.pieces = [] ∧ found = .unnamed (p.start directory) ∨
        ∃ way last reached, p.pieces = way ++ [last] ∧
          t.enter (p.start directory) way = .ok reached ∧
          found = spotOf reached p.endsWithSlash last) := by
  constructor
  · intro h
    unfold spot at h
    split at h
    · nomatch h
    split at h
    · nomatch h
    split at h
    · nomatch h
    rename_i hnul hempty hlong
    refine ⟨⟨Bool.eq_false_iff.mpr hnul, Bool.eq_false_iff.mpr hempty,
      Nat.lt_of_not_le hlong⟩, ?_⟩
    split at h
    · rename_i hnone
      exact Or.inl ⟨List.getLast?_eq_none_iff.mp hnone, (Except.ok.inj h).symm⟩
    rename_i last hlast
    split at h
    · nomatch h
    rename_i middle hmiddle
    exact Or.inr ⟨_, last, middle, (List.dropLast_append_getLast? last hlast).symm, hmiddle,
      (Except.ok.inj h).symm⟩
  · rintro ⟨⟨hnul, hempty, hshort⟩, hfound⟩
    have hlong : ¬ pathLimit ≤ byteLength p := Nat.not_le_of_lt hshort
    simp only [spot, hnul, hempty, hlong, if_false, Bool.false_eq_true]
    rcases hfound with ⟨hnone, rfl⟩ | ⟨way, last, middle, hway, henter, rfl⟩
    · simp [hnone]
    · simp [hway, henter]

theorem spot_eq_named {p : PathText} {outer : Location} {name : Name} {slash : Bool} :
    t.spot directory p = .ok (.named outer name slash) ↔
      p.Usable ∧ name ≠ ['.'] ∧ name ≠ ['.', '.'] ∧ p.endsWithSlash = slash ∧
        ∃ way, p.pieces = way ++ [name] ∧ t.enter (p.start directory) way = .ok outer := by
  rw [spot_eq_ok]
  constructor
  · rintro ⟨husable, ⟨_, hfound⟩ | ⟨way, last, middle, hway, henter, hfound⟩⟩
    · nomatch hfound
    · obtain ⟨hdot, hup, rfl, rfl, hslash⟩ := spotOf_eq_named.mp hfound.symm
      exact ⟨husable, hdot, hup, hslash, way, hway, henter⟩
  · rintro ⟨husable, hdot, hup, hslash, way, hway, henter⟩
    have hfound : spotOf outer p.endsWithSlash name = .named outer name slash :=
      spotOf_eq_named.mpr ⟨hdot, hup, rfl, rfl, hslash⟩
    exact ⟨husable, Or.inr ⟨way, name, outer, hway, henter, hfound.symm⟩⟩

theorem spot_mono (h : t.KeepsDirectories t') {p : PathText} {outer : Location} {name : Name}
    {slash : Bool} (hspot : t.spot directory p = .ok (.named outer name slash)) :
    t'.spot directory p = .ok (.named outer name slash) := by
  obtain ⟨husable, hdot, hup, hslash, way, hway, henter⟩ := spot_eq_named.mp hspot
  exact spot_eq_named.mpr ⟨husable, hdot, hup, hslash, way, hway, enter_mono h henter⟩

/-- Where something stands now, a path below a directory that leads there later already leads
there now, unless it goes upward on its way below that directory. -/
theorem Rooted.spot_of_spot (ht : t.Rooted) (hkeep : t.KeepsDirectories t') {p : PathText}
    {front back : List Name} (hpieces : p.pieces = front ++ back) (hback : back ≠ [])
    (hup : ['.', '.'] ∉ back.dropLast) {base outer : Location} {name : Name} {slash : Bool}
    (hfront : t.enter (p.start directory) front = .ok base)
    (hspot : t'.spot directory p = .ok (.named outer name slash))
    (hstands : t.get? (name :: outer) ≠ none) :
    t.spot directory p = .ok (.named outer name slash) := by
  obtain ⟨husable, hdot, hdots, hslash, way, hway, henter⟩ := spot_eq_named.mp hspot
  have hsplit : way = front ++ back.dropLast := by
    rw [← List.dropLast_append_of_ne_nil hback, ← hpieces, hway, List.dropLast_concat]
  rw [hsplit] at henter
  obtain ⟨middle, hmiddle, hrest⟩ := (enter_append front back.dropLast).mp henter
  have hbase : middle = base := by
    have hsame := hmiddle.symm.trans (enter_mono hkeep hfront)
    exact Except.ok.inj hsame
  rw [hbase] at hrest
  have hreach := ht.enter_of_enter hup (ht name outer hstands) hrest
  refine spot_eq_named.mpr ⟨husable, hdot, hdots, hslash, way, hway, ?_⟩
  rw [hsplit]
  exact (enter_append front back.dropLast).mpr ⟨base, hfront, hreach⟩

theorem directory_start (p : PathText)
    (hdirectory : t.get? directory = some .directory) :
    t.get? (p.start directory) = some .directory := by
  unfold PathText.start
  split
  · rfl
  · exact hdirectory

theorem Rooted.directory_of_spot (ht : t.Rooted) {p : PathText} {outer : Location} {name : Name}
    {slash : Bool} (hdirectory : t.get? directory = some .directory)
    (hspot : t.spot directory p = .ok (.named outer name slash)) :
    t.get? outer = some .directory := by
  obtain ⟨_, _, _, _, way, _, henter⟩ := spot_eq_named.mp hspot
  exact ht.enter (directory_start p hdirectory) henter

theorem enter_of_unnamed {p : PathText} {location : Location}
    (hspot : t.spot directory p = .ok (.unnamed location)) :
    t.enter (p.start directory) p.pieces = .ok location := by
  obtain ⟨_, ⟨hnone, hfound⟩ | ⟨way, last, middle, hway, henter, hfound⟩⟩ := spot_eq_ok.mp hspot
  · rw [hnone, Spot.unnamed.inj hfound]
    rfl
  · rw [hway, enter_append]
    refine ⟨middle, henter, ?_⟩
    unfold spotOf at hfound
    split at hfound
    · cases hfound
      simp [enter]
    · cases hfound
      simp [enter]
    · nomatch hfound

/-- A file is found where a path leads to its name. -/
theorem find_eq_file (ht : t.Rooted) (hdirectory : t.get? directory = some .directory)
    {p : PathText} {place : Location} {contents : Bytes} {executable : Bool} :
    t.find directory p = .ok (place, .file contents executable) ↔
      ∃ outer name, place = name :: outer ∧
        t.spot directory p = .ok (.named outer name false) ∧
        t.child outer name = .ok (some (.file contents executable)) := by
  constructor
  · intro h
    unfold find at h
    split at h
    · nomatch h
    · rename_i location hspot
      have hreached := ht.enter (directory_start p hdirectory) (enter_of_unnamed hspot)
      rw [hreached] at h
      cases h
    · rename_i outer name slash hspot
      split at h
      · nomatch h
      · nomatch h
      · cases h
      · rename_i hchild
        split at h
        · nomatch h
        · rename_i hslash
          cases h
          rw [Bool.not_eq_true] at hslash
          exact ⟨outer, name, rfl, hslash ▸ hspot, hchild⟩
  · rintro ⟨outer, name, rfl, hspot, hchild⟩
    simp only [find, hspot, hchild, Bool.false_eq_true, if_false]

theorem Rooted.find_file (ht : t.Rooted) (ht' : t'.Rooted) (hkeep : t.KeepsDirectories t')
    (hdirectory : t.get? directory = some .directory) {p : PathText} {place : Location}
    {old contents : Bytes} {oldMark executable : Bool}
    (hfind : t.find directory p = .ok (place, .file old oldMark))
    (hfile : t'.get? place = some (.file contents executable)) :
    t'.find directory p = .ok (place, .file contents executable) := by
  obtain ⟨outer, name, rfl, hspot, hchild⟩ := (find_eq_file ht hdirectory).mp hfind
  refine (find_eq_file ht' (hkeep _ hdirectory)).mpr ⟨outer, name, rfl, spot_mono hkeep hspot, ?_⟩
  rw [(child_eq_ok hchild).2, hfile]

theorem spot_of_isAbsolute {p : PathText} (hp : p.isAbsolute = true) (directory inside : Location) :
    t.spot directory p = t.spot inside p := by
  have hstart : p.start directory = p.start inside := by
    simp only [PathText.start, hp, if_true]
  simp only [spot, hstart]

theorem find_congr {inside : Location} {p q : PathText}
    (h : t.spot directory p = t.spot inside q) : t.find directory p = t.find inside q := by
  simp only [find, h]

theorem find_of_isAbsolute {p : PathText} (hp : p.isAbsolute = true) (directory inside : Location) :
    t.find directory p = t.find inside p :=
  find_congr (spot_of_isAbsolute hp directory inside)

theorem usable_of_find {p : PathText} {found : Location × Node}
    (h : t.find directory p = .ok found) :
    p.Usable := by
  cases hspot : t.spot directory p with
  | error cause =>
    simp only [find, hspot] at h
    nomatch h
  | ok spot => exact (spot_eq_ok.mp hspot).1

theorem get?_of_find {p : PathText} {location : Location} {node : Node}
    (h : t.find directory p = .ok (location, node)) : t.get? location = some node := by
  unfold find at h
  split at h
  · nomatch h
  · split at h
    · rename_i hnode
      cases h
      exact hnode
    · nomatch h
  · split at h
    · nomatch h
    · nomatch h
    · rename_i hchild
      cases h
      exact (child_eq_ok hchild).1
    · rename_i hchild
      split at h
      · nomatch h
      · cases h
        exact (child_eq_ok hchild).1

theorem find_of_findDirectory {p : PathText} {inside : Location}
    (h : t.findDirectory directory p = .ok inside) :
    t.find directory p = .ok (inside, .directory) := by
  unfold findDirectory at h
  split at h
  · nomatch h
  · rename_i location hlocation
    cases h
    exact hlocation
  · nomatch h

theorem enter_of_findDirectory {p : PathText} {inside : Location}
    (h : t.findDirectory directory p = .ok inside) :
    t.enter (p.start directory) p.pieces = .ok inside ∧ t.get? inside = some .directory := by
  have hfind := find_of_findDirectory h
  refine ⟨?_, get?_of_find hfind⟩
  unfold find at hfind
  split at hfind
  · nomatch hfind
  · rename_i location hspot
    split at hfind
    · cases hfind
      exact enter_of_unnamed hspot
    · nomatch hfind
  · rename_i outer name slash hspot
    split at hfind
    · nomatch hfind
    · nomatch hfind
    · rename_i hchild
      cases hfind
      obtain ⟨_, hdot, hup, _, way, hway, henter⟩ := spot_eq_named.mp hspot
      rw [hway, enter_append]
      exact ⟨outer, henter, enter_cons_eq_ok.mpr (Or.inr (Or.inr ⟨hdot, hup, hchild, rfl⟩))⟩
    · split at hfind
      · nomatch hfind
      · cases hfind

/-- A path whose pieces lead to a directory leads to it without naming it, or by its name. -/
theorem spot_of_enter {p : PathText} (hp : p.Usable)
    (henter : t.enter (p.start directory) p.pieces = .ok reached) :
    t.spot directory p = .ok (.unnamed reached) ∨ ∃ outer name slash,
      reached = name :: outer ∧ t.spot directory p = .ok (.named outer name slash) ∧
        t.child outer name = .ok (some .directory) := by
  rcases List.eq_nil_or_concat' p.pieces with hnil | ⟨way, last, hway⟩
  · rw [hnil] at henter
    cases henter
    exact Or.inl (spot_eq_ok.mpr ⟨hp, Or.inl ⟨hnil, rfl⟩⟩)
  · rw [hway, enter_append] at henter
    obtain ⟨middle, hmiddle, hlast⟩ := henter
    have hspot := spot_eq_ok.mpr ⟨hp, Or.inr ⟨way, last, middle, hway, hmiddle, rfl⟩⟩
    rcases enter_cons_eq_ok.mp hlast with ⟨rfl, hr⟩ | ⟨rfl, hr⟩ | ⟨hdot, hup, hchild, hr⟩
    · cases hr
      exact Or.inl hspot
    · cases hr
      exact Or.inl hspot
    · cases hr
      rw [spotOf_eq_named.mpr ⟨hdot, hup, rfl, rfl, rfl⟩] at hspot
      exact Or.inr ⟨middle, last, p.endsWithSlash, rfl, hspot, hchild⟩

theorem Rooted.findDirectory_of_enter (ht : t.Rooted)
    (hdirectory : t.get? directory = some .directory) {p : PathText} (hp : p.Usable)
    (henter : t.enter (p.start directory) p.pieces = .ok reached) :
    t.findDirectory directory p = .ok reached := by
  rcases spot_of_enter hp henter with hspot | ⟨outer, name, slash, rfl, hspot, hchild⟩
  · have hreached := ht.enter (directory_start p hdirectory) henter
    simp only [findDirectory, find, hspot, hreached]
  · simp only [findDirectory, find, hspot, hchild]

end Tree

end BootMedia
