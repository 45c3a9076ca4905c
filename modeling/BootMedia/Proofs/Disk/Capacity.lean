import BootMedia.Proofs.Disk.LayoutChoice

/-!
How much of a disk its geometry addresses. Main statement: the geometry has as many whole cylinders
as the sectors that are counted make up, so that less than one cylinder is left over.
-/
namespace BootMedia

namespace Chs

/-- A geometry never has more sectors than a word can count. -/
theorem toNat_totalSectors (g : Chs) :
    g.totalSectors.toNat = g.cylinders.toNat * (g.heads.toNat * g.sectorsPerTrack.toNat) := by
  have hcylinders : g.cylinders.toNat ≤ 65535 := Nat.le_of_lt_succ g.cylinders.toNat_lt
  have hheads : g.heads.toNat ≤ 255 := Nat.le_of_lt_succ g.heads.toNat_lt
  have hsectors : g.sectorsPerTrack.toNat ≤ 255 := Nat.le_of_lt_succ g.sectorsPerTrack.toNat_lt
  have hsides := Nat.mul_le_mul hcylinders hheads
  have hall := Nat.mul_le_mul hsides hsectors
  have hinner : g.cylinders.toNat * g.heads.toNat % 2 ^ 64 = g.cylinders.toNat * g.heads.toNat :=
    Nat.mod_eq_of_lt (by omega)
  simp only [totalSectors, UInt64.toNat_mul, UInt16.toNat_toUInt64, UInt8.toNat_toUInt64]
  rw [hinner, Nat.mod_eq_of_lt (by omega), Nat.mul_assoc]

end Chs

namespace Layout.FirstFit

variable {total sectorsPerTrack heads tracks : Nat}

/-- Whole tracks are divided into cylinders as the sectors themselves are. -/
theorem cylinders_eq (h : FirstFit total sectorsPerTrack heads tracks) :
    tracks / heads = total / (heads * sectorsPerTrack) := by
  rw [h.tracks_eq, Nat.div_div_eq_div_mul, Nat.mul_comm]

theorem sectorsPerTrack_eq (h : FirstFit total sectorsPerTrack heads tracks) :
    sectorsPerTrack = 17 ∨ sectorsPerTrack = 31 ∨ sectorsPerTrack = 63 ∨ sectorsPerTrack = 255 := by
  cases h <;> simp

theorem cylinders_eq_zero_iff (h : FirstFit total sectorsPerTrack heads tracks) :
    tracks / heads = 0 ↔ total < 68 := by
  obtain ⟨hlow, hhigh⟩ := h.heads_bounds
  rw [Nat.div_eq_zero_iff_lt (by omega), h.tracks_eq]
  rcases h.range with ⟨⟨rfl, rfl⟩, hlarge⟩ | ⟨⟨rfl, rfl⟩, hlarge, -⟩ | ⟨⟨rfl, rfl⟩, hmedium⟩ |
    ⟨⟨rfl, rfl⟩, -⟩
  · omega
  · omega
  · have hbound : 69632 ≤ total := by
      rcases hmedium with ⟨hlarge, -⟩ | hgap
      · omega
      · exact hgap.bounds.1
    omega
  · rw [shortHeads, Nat.ceilDiv_eq_add_pred_div]
    omega

end Layout.FirstFit

/-- The geometry of a disk addresses the sectors that are counted of it up to the last whole
cylinder. What is lost is less than one cylinder, and only a disk of fewer than 68 sectors has no
cylinder at all. -/
theorem Chs.ofSectors_whole_cylinders (sectors : UInt64) :
    let g : Chs := ofSectors sectors
    let total := min sectors.toNat (65535 * 16 * 255)
    let cylinder := g.heads.toNat * g.sectorsPerTrack.toNat
    let lost := total - g.totalSectors.toNat
    g.totalSectors.toNat = total - total % cylinder ∧
      IsGreatest {count | count * cylinder ≤ total} g.cylinders.toNat ∧
      g.totalSectors.toNat ≤ total ∧ lost < cylinder ∧
      (g.sectorsPerTrack.toNat = 17 ∧ lost < 272 ∨ g.sectorsPerTrack.toNat = 31 ∧ lost < 496 ∨
        g.sectorsPerTrack.toNat = 63 ∧ lost < 1008 ∨
        g.sectorsPerTrack.toNat = 255 ∧ lost < 4080) ∧
      (g.cylinders = 0 ↔ sectors.toNat < 68) := by
  intro g total cylinder lost
  obtain ⟨tracks, hfit, hcylinders⟩ : ∃ tracks,
      Layout.FirstFit total g.sectorsPerTrack.toNat g.heads.toNat tracks ∧
        g.cylinders.toNat = tracks / g.heads.toNat := firstFit_ofSectors sectors
  obtain ⟨hlow, hhigh⟩ := hfit.heads_bounds
  have hcount : g.cylinders.toNat = total / cylinder := hcylinders.trans hfit.cylinders_eq
  have htotal : g.totalSectors.toNat = total - total % cylinder := by
    rw [toNat_totalSectors, hcount]
    exact Nat.div_mul_self_eq_mod_sub_self
  have hlost : lost = total % cylinder := by
    change total - g.totalSectors.toNat = total % cylinder
    rw [htotal, Nat.sub_sub_self (Nat.mod_le total cylinder)]
  have hlengths := hfit.sectorsPerTrack_eq
  have hpositive : 0 < cylinder := Nat.mul_pos (by omega) (by omega)
  have hless : lost < cylinder := hlost ▸ Nat.mod_lt total hpositive
  refine ⟨htotal, ⟨?fits, ?greatest⟩, htotal ▸ Nat.sub_le _ _, hless, ?layouts, ?none⟩
  case fits =>
    rw [hcount]
    exact Nat.div_mul_le_self total cylinder
  case greatest =>
    intro count hfits
    rw [hcount, Nat.le_div_iff_mul_le hpositive]
    exact hfits
  case layouts =>
    have hmost : lost < 16 * g.sectorsPerTrack.toNat :=
      Nat.lt_of_lt_of_le hless (Nat.mul_le_mul_right _ hhigh)
    rcases hlengths with h | h | h | h
    · exact Or.inl ⟨h, by omega⟩
    · exact Or.inr (Or.inl ⟨h, by omega⟩)
    · exact Or.inr (Or.inr (Or.inl ⟨h, by omega⟩))
    · exact Or.inr (Or.inr (Or.inr ⟨h, by omega⟩))
  case none =>
    rw [← UInt16.toNat_inj, UInt16.toNat_zero, hcylinders, hfit.cylinders_eq_zero_iff]
    omega

/-- The largest disk that is not large, and the first large one. -/
example : (Chs.ofSectors 66059279).totalSectors = 66058272 ∧
    (Chs.ofSectors 66059280).totalSectors = 66059280 := by decide

end BootMedia
