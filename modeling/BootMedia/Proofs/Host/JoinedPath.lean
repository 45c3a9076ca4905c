import BootMedia.Proofs.Host.Walk
import BootMedia.Proofs.PathPieces
import Mathlib

/-!
Paths below a directory, followed from outside and from within. Main statement: a path below a
directory leads to the very spot that the rest of it leads to from there, with the same fault where
there is none, so that both find, remove, write and move the same file.
-/
namespace BootMedia

theorem byteLength_append (p q : List Char) :
    byteLength (p ++ q) = byteLength p + byteLength q := by
  have hfold (n : Nat) : q.foldl (fun n c => n + c.utf8Size) n = n + byteLength q := by
    induction q generalizing n with
    | nil => rfl
    | cons c q ih =>
      rw [byteLength, List.foldl_cons, List.foldl_cons, ih, ih (0 + c.utf8Size)]
      omega
  rw [byteLength, List.foldl_append]
  exact hfold _

theorem hasNul_append (p q : List Char) : hasNul (p ++ q) = (hasNul p || hasNul q) :=
  List.any_append

namespace PathText

variable {outer p : PathText}

theorem exists_join_eq (outer : PathText) (hp : p.isAbsolute = false) :
    ∃ between, outer.join p = outer ++ between ++ p := by
  rw [join, if_neg (Bool.eq_false_iff.mp hp)]
  split
  · exact ⟨[], by simp⟩
  · exact ⟨['/'], by simp⟩

theorem join_ne_nil (houter : outer ≠ []) : outer.join p ≠ [] := by
  cases hp : p.isAbsolute with
  | true =>
    rw [join, if_pos hp]
    rintro rfl
    exact Bool.false_ne_true hp
  | false =>
    obtain ⟨between, hjoin⟩ := exists_join_eq outer hp
    simp [hjoin, houter]

theorem start_join (houter : outer ≠ []) (hp : p.isAbsolute = false) (current : Location) :
    (outer.join p).start current = outer.start current := by
  rw [start, start, isAbsolute_join houter hp]

theorem Usable.parts_of_join (h : (outer.join p).Usable) (houter : outer ≠ []) (hne : p ≠ [])
    (hp : p.isAbsolute = false) : outer.Usable ∧ p.Usable := by
  obtain ⟨between, hjoin⟩ := exists_join_eq outer hp
  obtain ⟨hnul, -, hshort⟩ := h
  rw [hjoin, hasNul_append, hasNul_append, Bool.or_eq_false_iff, Bool.or_eq_false_iff] at hnul
  rw [hjoin, byteLength_append, byteLength_append] at hshort
  exact ⟨⟨hnul.1.1, by simpa using houter, by omega⟩, ⟨hnul.2, by simpa using hne, by omega⟩⟩

end PathText

namespace Tree

open PathText

variable {t : Tree} {directory inside : Location} {outer p : PathText}

theorem spot_eq_map (hp : p.Usable) {way : List Name} {last : Name}
    (hway : p.pieces = way ++ [last]) :
    t.spot directory p =
      (t.enter (p.start directory) way).map fun reached => spotOf reached p.endsWithSlash last := by
  have hlong : ¬ pathLimit ≤ byteLength p := Nat.not_le_of_lt hp.short
  simp only [spot, hp.noNul, hp.nonempty, hlong, hway, List.getLast?_concat, List.dropLast_concat,
    Bool.false_eq_true, if_false]
  cases t.enter (p.start directory) way <;> rfl

/-- A path below a directory leads to the spot that the rest of it leads to from there. -/
theorem spot_join (houter : outer ≠ []) (hne : p ≠ []) (husable : (outer.join p).Usable)
    (henter : t.enter (outer.start directory) outer.pieces = .ok inside) :
    t.spot directory (outer.join p) = t.spot inside p := by
  cases habsolute : p.isAbsolute with
  | true => rw [join, if_pos habsolute, spot_of_isAbsolute habsolute directory inside]
  | false =>
    have hinner := (husable.parts_of_join houter hne habsolute).2
    have hsome := pieces_ne_nil_of_relative hne habsolute
    obtain ⟨way, last, hway⟩ := (List.eq_nil_or_concat' p.pieces).resolve_left hsome
    have hpieces : (outer.join p).pieces = (outer.pieces ++ way) ++ [last] := by
      rw [pieces_join houter habsolute, hway, List.append_assoc]
    have hstart : p.start inside = inside := if_neg (Bool.eq_false_iff.mp habsolute)
    have hwalk : t.enter (outer.start directory) (outer.pieces ++ way) = t.enter inside way := by
      rw [enter_append_eq_bind, henter]
      rfl
    rw [spot_eq_map husable hpieces, spot_eq_map hinner hway, start_join houter habsolute, hwalk,
      hstart, endsWithSlash_join houter habsolute, hinner.nonempty, Bool.false_or]

/-- A text without a slash can lead to no other name than itself, right where it starts. -/
theorem named_of_spot {name last : Name} {place : Location} {slash : Bool} (hname : '/' ∉ name)
    (hspot : t.spot inside name = .ok (.named place last slash)) :
    place = inside ∧ last = name := by
  obtain ⟨husable, -, -, -, way, hway, henter⟩ := spot_eq_named.mp hspot
  rw [pieces_singleton hname, husable.nonempty, if_neg Bool.false_ne_true] at hway
  obtain ⟨rfl, hlast⟩ := List.append_inj' (show [] ++ [name] = way ++ [last] from hway) rfl
  have hstart : PathText.start name inside = inside :=
    if_neg (Bool.eq_false_iff.mp (isAbsolute_of_not_mem hname))
  rw [hstart] at henter
  exact ⟨(Except.ok.inj henter).symm, (List.singleton_inj.mp hlast).symm⟩

end Tree

end BootMedia
