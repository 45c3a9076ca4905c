import BootMedia.Proofs.Disk.Derivation

/-!
Which layout a disk gets, by its number of sectors alone. Tracks of 17 sectors serve the small
disks, except where their number is a multiple of 1024 that would need all 1024 cylinders: there
the next layout is taken, and the short tracks come back right behind. Main statement: the bounds
between the layouts, with these gaps.
-/
namespace BootMedia

namespace Layout

/-- The whole tracks of 17 sectors would fill exactly 1024 cylinders with some number of heads that
is allowed, but not the greatest. -/
def InGap (total : Nat) : Prop :=
  ∃ heads, 4 ≤ heads ∧ heads ≤ 15 ∧ 17408 * heads ≤ total ∧ total ≤ 17408 * heads + 16

theorem InGap.bounds {total : Nat} (h : InGap total) : 69632 ≤ total ∧ total < 278528 := by
  obtain ⟨heads, hlow, hhigh, hfirst, hlast⟩ := h
  omega

/-- Short tracks are addressable up to a bound, outside of the gaps. -/
theorem short_addressable_iff (total : Nat) :
    shortHeads total ≤ 16 ∧ total / 17 < shortHeads total * 1024 ↔
      total < 278528 ∧ ¬ InGap total := by
  have hheads : shortHeads total = max 4 ((total / 17 + 1024 - 1) / 1024) := by
    rw [shortHeads, Nat.ceilDiv_eq_add_pred_div]
  rw [hheads]
  constructor
  · rintro ⟨hfew, htracks⟩
    refine ⟨by omega, ?_⟩
    rintro ⟨heads, hlow, hhigh, hfirst, hlast⟩
    have hwhole : total / 17 = 1024 * heads := by omega
    omega
  · rintro ⟨hsmall, hgap⟩
    -- If the tracks just filled the heads they need, these would be the heads of a gap.
    have hnone : ¬ (4 ≤ (total / 17 + 1024 - 1) / 1024 ∧
        total / 17 = 1024 * ((total / 17 + 1024 - 1) / 1024)) := by
      rintro ⟨hlow, hwhole⟩
      exact hgap ⟨(total / 17 + 1024 - 1) / 1024, hlow, by omega, by omega, by omega⟩
    omega

namespace FirstFit

variable {total sectorsPerTrack heads tracks : Nat}

theorem tracks_eq (h : FirstFit total sectorsPerTrack heads tracks) :
    tracks = total / sectorsPerTrack := by
  cases h <;> rfl

/-- Each layout is taken on its own range of sizes. -/
theorem range (h : FirstFit total sectorsPerTrack heads tracks) :
    (sectorsPerTrack = 255 ∧ heads = 16) ∧ 66059280 ≤ total ∨
      (sectorsPerTrack = 63 ∧ heads = 16) ∧ 507904 ≤ total ∧ total < 66059280 ∨
      (sectorsPerTrack = 31 ∧ heads = 16) ∧
        (278528 ≤ total ∧ total < 507904 ∨ InGap total) ∨
      (sectorsPerTrack = 17 ∧ heads = shortHeads total) ∧ total < 278528 ∧ ¬ InGap total := by
  have hshort := short_addressable_iff total
  cases h with
  | longest hlarge => exact Or.inl ⟨⟨rfl, rfl⟩, hlarge⟩
  | short hsmall hheads htracks =>
    exact Or.inr (Or.inr (Or.inr ⟨⟨rfl, rfl⟩, hshort.mp ⟨hheads, htracks⟩⟩))
  | medium hsmall hnot htracks =>
    refine Or.inr (Or.inr (Or.inl ⟨⟨rfl, rfl⟩, ?_⟩))
    by_cases hgap : InGap total
    · exact Or.inr hgap
    · refine Or.inl ⟨?_, by omega⟩
      by_contra hless
      obtain ⟨hheads, hfits⟩ := hshort.mpr ⟨Nat.lt_of_not_le hless, hgap⟩
      exact Nat.not_lt.mpr (hnot hheads) hfits
  | long hsmall hnot hmedium => exact Or.inr (Or.inl ⟨⟨rfl, rfl⟩, by omega, hsmall⟩)

theorem cylinders_lt_of_short (h : FirstFit total 17 heads tracks) : tracks / heads < 1024 := by
  cases h with
  | short hsmall hheads htracks => exact Nat.div_lt_of_lt_mul htracks

end FirstFit

end Layout

/-- The layout of a disk by the sectors that are counted of it: the longest tracks for the largest
disks, then those of 63 sectors, and those of 31 below that and in the gaps. All other disks get
tracks of 17 sectors, with as many heads as these need, and at most 1023 cylinders. -/
theorem Chs.layout_by_size (sectors : UInt64) :
    let g : Chs := ofSectors sectors
    let total := min sectors.toNat (65535 * 16 * 255)
    let uses (sectorsPerTrack heads : Nat) : Prop :=
      g.sectorsPerTrack.toNat = sectorsPerTrack ∧ g.heads.toNat = heads
    (uses 255 16 ↔ 66059280 ≤ total) ∧
      (uses 63 16 ↔ 507904 ≤ total ∧ total < 66059280) ∧
      (uses 31 16 ↔ 278528 ≤ total ∧ total < 507904 ∨ Layout.InGap total) ∧
      (uses 17 (max 4 (total / 17 ⌈/⌉ 1024)) ↔ total < 278528 ∧ ¬ Layout.InGap total) ∧
      (g.sectorsPerTrack.toNat = 17 → g.heads.toNat ≤ 16 ∧ g.cylinders.toNat ≤ 1023) := by
  intro g total uses
  obtain ⟨tracks, hfit, hcylinders⟩ := firstFit_ofSectors sectors
  have hgap : Layout.InGap total → 69632 ≤ total ∧ total < 278528 := Layout.InGap.bounds
  have hneeded : max 4 (total / 17 ⌈/⌉ 1024) = Layout.shortHeads total := rfl
  have hrange : uses 255 16 ∧ 66059280 ≤ total ∨
      uses 63 16 ∧ 507904 ≤ total ∧ total < 66059280 ∨
      uses 31 16 ∧ (278528 ≤ total ∧ total < 507904 ∨ Layout.InGap total) ∨
      uses 17 (Layout.shortHeads total) ∧ total < 278528 ∧ ¬ Layout.InGap total := hfit.range
  rw [hneeded]
  refine ⟨?longest, ?long, ?medium, ?short, ?bounds⟩
  -- A size lies in one of the ranges only, and the layouts differ in their track lengths.
  case longest => grind
  case long => grind
  case medium => grind
  case short => grind
  case bounds =>
    intro hshort
    rw [hshort] at hfit
    have hfew := hfit.cylinders_lt_of_short
    rw [← hcylinders] at hfew
    exact ⟨hfit.heads_bounds.2, Nat.le_of_lt_succ hfew⟩

/-- The first disk in the first gap and in the last one, and the disks next to the first gap. -/
example : Chs.ofSectors 69631 = ⟨1023, 4, 17⟩ ∧ Chs.ofSectors 69632 = ⟨140, 16, 31⟩ ∧
    Chs.ofSectors 69649 = ⟨819, 5, 17⟩ ∧ Chs.ofSectors 261120 = ⟨526, 16, 31⟩ := by
  decide

end BootMedia
