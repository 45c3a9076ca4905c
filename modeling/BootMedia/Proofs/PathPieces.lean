import BootMedia.Path
import Mathlib

/-!
The pieces of joined paths. A path below another one has the pieces of both, in order, whether or
not the outer one ends in a slash; a path that does not end in a slash has a last piece.
-/
namespace BootMedia

theorem fields_eq_splitOn (separator : Char) (t : List Char) :
    fields separator t = t.splitOn separator := by
  induction t with
  | nil => rfl
  | cons c rest ih =>
    rw [fields, List.splitOn_cons_eq_if_modifyHead, ih]
    by_cases hc : c = separator
    · simp [hc]
    · obtain ⟨piece, pieces, hrest⟩ :=
        List.exists_cons_of_ne_nil (List.splitOn_ne_nil separator rest)
      simp [hc, hrest]

theorem exists_mem_fields {separator c : Char} {t : List Char} (hc : c ∈ t)
    (hne : c ≠ separator) : ∃ piece ∈ fields separator t, c ∈ piece := by
  induction t with
  | nil => simp at hc
  | cons first rest ih =>
    rw [fields_eq_splitOn] at ih ⊢
    rw [List.splitOn_cons_eq_if_modifyHead]
    by_cases hfirst : first = separator
    · have hrest : c ∈ rest := by
        rcases List.mem_cons.mp hc with heq | hrest
        · exact absurd (heq.trans hfirst) hne
        · exact hrest
      obtain ⟨piece, hpiece, hmem⟩ := ih hrest
      refine ⟨piece, ?_, hmem⟩
      simp only [hfirst, beq_self_eq_true, if_true]
      exact List.mem_cons_of_mem [] hpiece
    · obtain ⟨piece, pieces, hsplit⟩ :=
        List.exists_cons_of_ne_nil (List.splitOn_ne_nil separator rest)
      rw [hsplit] at ih ⊢
      simp only [beq_iff_eq, hfirst, if_false, List.modifyHead_cons]
      rcases List.mem_cons.mp hc with heq | hrest
      · exact ⟨first :: piece, List.mem_cons_self, heq ▸ List.mem_cons_self⟩
      · obtain ⟨found, hfound, hmem⟩ := ih hrest
        rcases List.mem_cons.mp hfound with rfl | hlater
        · exact ⟨first :: found, List.mem_cons_self, List.mem_cons_of_mem first hmem⟩
        · exact ⟨found, List.mem_cons_of_mem _ hlater, hmem⟩

theorem separator_not_mem_fields {separator : Char} {t piece : List Char}
    (h : piece ∈ fields separator t) : separator ∉ piece := by
  induction t generalizing piece with
  | nil =>
    obtain rfl := List.mem_singleton.mp h
    exact List.not_mem_nil
  | cons c rest ih =>
    unfold fields at h
    split at h
    · rcases List.mem_cons.mp h with rfl | hrest
      · exact List.not_mem_nil
      · exact ih hrest
    · rename_i hc
      split at h
      · obtain rfl := List.mem_singleton.mp h
        simpa using Ne.symm hc
      · rename_i first others hfields
        rw [hfields] at ih
        rcases List.mem_cons.mp h with rfl | hothers
        · exact List.not_mem_cons_of_ne_of_not_mem (Ne.symm hc) (ih List.mem_cons_self)
        · exact ih (List.mem_cons_of_mem first hothers)

namespace PathText

theorem mem_pieces {p : PathText} {piece : List Char} {c : Char} (hpiece : piece ∈ fields '/' p)
    (hmem : c ∈ piece) : piece ∈ p.pieces :=
  List.mem_filter.mpr ⟨hpiece, by simpa using List.ne_nil_of_mem hmem⟩

theorem pieces_append_slash (p q : PathText) : pieces (p ++ '/' :: q) = p.pieces ++ q.pieces := by
  simp only [pieces, fields_eq_splitOn, List.splitOn_append_cons_self, List.filter_append]

theorem pieces_singleton {name : List Char} (hname : '/' ∉ name) :
    pieces name = if name.isEmpty then [] else [name] := by
  rw [pieces, fields_eq_splitOn, List.splitOn_eq_singleton hname]
  cases name <;> rfl

theorem endsWithSlash_iff {p : PathText} :
    p.endsWithSlash = true ↔ ∃ front, p = front ++ ['/'] := by
  simp [endsWithSlash, List.getLast?_eq_some_iff]

/-- A path below another one has the pieces of both. -/
theorem pieces_join {directory p : PathText} (hdirectory : directory ≠ [])
    (hp : p.isAbsolute = false) : (directory.join p).pieces = directory.pieces ++ p.pieces := by
  have hempty : directory.isEmpty = false := by simpa using hdirectory
  by_cases hslash : directory.endsWithSlash = true
  · obtain ⟨front, rfl⟩ := endsWithSlash_iff.mp hslash
    have hfront : pieces (front ++ ['/']) = front.pieces := by
      rw [pieces_append_slash]
      exact List.append_nil _
    simp only [join, hp, hempty, hslash, Bool.or_true, if_true, Bool.false_eq_true, if_false,
      hfront, List.append_assoc, List.singleton_append, pieces_append_slash]
  · simp only [join, hp, hempty, hslash, Bool.or_false, Bool.false_eq_true, if_false,
      pieces_append_slash]

theorem isAbsolute_join {directory p : PathText} (hdirectory : directory ≠ [])
    (hp : p.isAbsolute = false) : (directory.join p).isAbsolute = directory.isAbsolute := by
  obtain ⟨c, rest, rfl⟩ := List.exists_cons_of_ne_nil hdirectory
  unfold join
  rw [if_neg (by simp [hp])]
  split <;> rfl

theorem contains_slash_of_isAbsolute {p : PathText} (hp : p.isAbsolute = true) :
    p.contains '/' = true := by
  cases p with
  | nil => nomatch hp
  | cons c rest =>
    have hc : c = '/' := by simpa [isAbsolute] using hp
    simp [hc]

theorem isAbsolute_of_not_mem {p : PathText} (hp : '/' ∉ p) : p.isAbsolute = false := by
  rw [Bool.eq_false_iff]
  exact fun habsolute => hp (List.contains_iff_mem.mp (contains_slash_of_isAbsolute habsolute))

theorem endsWithSlash_join {directory p : PathText} (hdirectory : directory ≠ [])
    (hp : p.isAbsolute = false) :
    (directory.join p).endsWithSlash = (p.isEmpty || p.endsWithSlash) := by
  have hempty : directory.isEmpty = false := by simpa using hdirectory
  cases p with
  | nil =>
    by_cases hslash : directory.endsWithSlash = true
    · simp only [join, hp, hslash, Bool.or_true, if_true, Bool.false_eq_true, if_false,
        List.append_nil]
      rfl
    · simp only [join, hp, hempty, hslash, Bool.or_false, Bool.false_eq_true, if_false]
      exact endsWithSlash_iff.mpr ⟨directory, rfl⟩
  | cons c rest =>
    unfold join
    rw [if_neg (by simp [hp])]
    split <;> simp [endsWithSlash, List.getLast?_cons]

theorem pieces_ne_nil_of_relative {p : PathText} (hne : p ≠ []) (hp : p.isAbsolute = false) :
    p.pieces ≠ [] := by
  obtain ⟨c, rest, rfl⟩ := List.exists_cons_of_ne_nil hne
  have hc : c ≠ '/' := by simpa [isAbsolute] using hp
  obtain ⟨piece, hpiece, hmem⟩ := exists_mem_fields (t := c :: rest) List.mem_cons_self hc
  exact List.ne_nil_of_mem (mem_pieces hpiece hmem)

theorem pieces_ne_nil {p : PathText} (hp : p ≠ []) (hslash : p.endsWithSlash = false) :
    p.pieces ≠ [] := by
  have hlast : p.getLast hp ≠ '/' := by
    intro hlast
    have hends : p.endsWithSlash = true :=
      endsWithSlash_iff.mpr ⟨p.dropLast, hlast ▸ (List.dropLast_append_getLast hp).symm⟩
    exact Bool.noConfusion (hslash.symm.trans hends)
  obtain ⟨piece, hpiece, hmem⟩ := exists_mem_fields (List.getLast_mem hp) hlast
  exact List.ne_nil_of_mem (mem_pieces hpiece hmem)

/-- A path that does not end in a slash is its last piece, or ends in a slash and this piece. -/
theorem exists_last {p : PathText} (hp : p ≠ []) (hslash : p.endsWithSlash = false) :
    ∃ last, p.pieces.getLast? = some last ∧ '/' ∉ last ∧
      (p = last ∨ ∃ outer, p = outer ++ '/' :: last) := by
  by_cases hmem : '/' ∈ p
  · obtain ⟨back, rest, hsplit, hback⟩ :=
      List.eq_append_cons_of_mem (List.mem_reverse.mpr hmem)
    have hlast : '/' ∉ back.reverse := mt List.mem_reverse.mp hback
    have hpath : p = rest.reverse ++ '/' :: back.reverse := by
      simpa using congrArg List.reverse hsplit
    have hne : back.reverse ≠ [] := by
      intro hnil
      rw [hnil] at hpath
      exact Bool.noConfusion (hslash.symm.trans (endsWithSlash_iff.mpr ⟨rest.reverse, hpath⟩))
    refine ⟨back.reverse, ?_, hlast, Or.inr ⟨rest.reverse, hpath⟩⟩
    rw [hpath, pieces_append_slash, pieces_singleton hlast, if_neg (by simpa using hne)]
    exact List.getLast?_concat
  · refine ⟨p, ?_, hmem, Or.inl rfl⟩
    rw [pieces_singleton hmem, if_neg (by simpa using hp)]
    rfl

end PathText

end BootMedia
