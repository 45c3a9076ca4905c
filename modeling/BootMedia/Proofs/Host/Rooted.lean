import BootMedia.Host.Files
import Mathlib

/-!
Trees in which everything stands in a directory, and the paths that lead through them. A path that
leads somewhere still leads there when directories stay, and a place below a directory is reached
through directories that were there before anything could stand at it.
-/
namespace BootMedia.Tree

variable {t t' : Tree}

/-- Everything stands in a directory. -/
def Rooted (t : Tree) : Prop :=
  ∀ name outer, t.get? (name :: outer) ≠ none → t.get? outer = some .directory

/-- The directories of one tree are directories of another. -/
def KeepsDirectories (t t' : Tree) : Prop :=
  ∀ l, t.get? l = some .directory → t'.get? l = some .directory

theorem KeepsDirectories.refl (t : Tree) : KeepsDirectories t t := fun _ h => h

theorem KeepsDirectories.trans {t'' : Tree} (h : KeepsDirectories t t')
    (h' : KeepsDirectories t' t'') : KeepsDirectories t t'' := fun l hl => h' l (h l hl)

theorem rooted_empty : empty.Rooted := fun _ _ h => absurd rfl h

namespace Rooted

theorem tail (ht : t.Rooted) {l : Location} (hl : t.get? l = some .directory) :
    t.get? l.tail = some .directory := by
  cases l with
  | nil => rfl
  | cons name outer => exact ht name outer (by simp [hl])

theorem suffix (ht : t.Rooted) {inner outer : Location} (h : outer <:+ inner)
    (hinner : t.get? inner = some .directory) : t.get? outer = some .directory := by
  obtain ⟨names, rfl⟩ := h
  induction names with
  | nil => exact hinner
  | cons name names ih => exact ih (ht.tail hinner)

/-- Something may be put into a directory, but no file in the place of a directory. -/
theorem put (ht : t.Rooted) {name : Name} {outer : Location} {n : Node}
    (houter : t.get? outer = some .directory)
    (hn : t.get? (name :: outer) = some .directory → n = .directory) :
    (t.put (name :: outer) n).Rooted := by
  intro other around hother
  have hne : name :: outer ≠ [] := List.cons_ne_nil name outer
  rw [get?_put t hne] at hother ⊢
  by_cases haround : around = name :: outer
  · subst haround
    have hinside : other :: name :: outer ≠ name :: outer := List.cons_ne_self _ _
    simp only [hinside, if_false] at hother
    simp only [if_true, hn (ht other (name :: outer) hother)]
  · simp only [haround, if_false]
    by_cases hplace : other :: around = name :: outer
    · obtain ⟨rfl, rfl⟩ := List.cons.inj hplace
      exact houter
    · simp only [hplace, if_false] at hother
      exact ht other around hother

theorem erase (ht : t.Rooted) {l : Location} (hne : l ≠ [])
    (hl : t.get? l ≠ some .directory) : (t.erase l).Rooted := by
  intro name outer h
  rw [get?_erase t hne] at h ⊢
  have hinside : name :: outer ≠ l := by
    intro heq
    exact h (if_pos heq)
  simp only [hinside, if_false] at h
  have houter := ht name outer h
  have hother : outer ≠ l := by
    intro heq
    exact hl (heq ▸ houter)
  simpa only [hother, if_false] using houter

end Rooted

theorem keepsDirectories_put {l : Location} (hne : l ≠ []) {n : Node}
    (hn : t.get? l = some .directory → n = .directory) : KeepsDirectories t (t.put l n) := by
  intro other hother
  rw [get?_put t hne]
  by_cases heq : other = l
  · subst heq
    simp only [if_true, hn hother]
  · simpa only [heq, if_false] using hother

theorem keepsDirectories_erase {l : Location} (hne : l ≠ [])
    (hl : t.get? l ≠ some .directory) : KeepsDirectories t (t.erase l) := by
  intro other hother
  have heq : other ≠ l := by
    intro heq
    exact hl (heq ▸ hother)
  simpa only [get?_erase t hne, heq, if_false] using hother

theorem child_eq_ok {directory : Location} {name : Name} {found : Option Node}
    (h : t.child directory name = .ok found) :
    t.get? (name :: directory) = found ∧
      ∀ other : Tree, other.child directory name = .ok (other.get? (name :: directory)) := by
  unfold child at h ⊢
  split at h
  · nomatch h
  · rename_i hshort
    exact ⟨Except.ok.inj h, fun other => if_neg hshort⟩

end BootMedia.Tree
