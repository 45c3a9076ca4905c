import BootMedia.Disk.Geometry
import Mathlib

/-!
The geometry of a disk over the natural numbers. The derivation revises heads and track length
while there are too many tracks for 1024 cylinders; the program takes the first layout that is
addressable. Main statement: the two agree for every number of sectors, and no machine word on the
way is too small for its value.
-/
namespace BootMedia

/-- Cylinders, heads and sectors per track of a disk, derived step by step. -/
def Chs.derivation (sectors : Nat) : Nat × Nat × Nat := Id.run do
  let total := min sectors (65535 * 16 * 255)
  let mut sectorsPerTrack := 255
  let mut heads := 16
  let mut tracks := total / sectorsPerTrack
  if total < 65535 * 16 * 63 then
    sectorsPerTrack := 17
    tracks := total / sectorsPerTrack
    heads := max 4 (tracks ⌈/⌉ 1024)
    if heads * 1024 ≤ tracks ∨ 16 < heads then
      sectorsPerTrack := 31
      heads := 16
      tracks := total / sectorsPerTrack
    if heads * 1024 ≤ tracks then
      sectorsPerTrack := 63
      heads := 16
      tracks := total / sectorsPerTrack
  return (tracks / heads, heads, sectorsPerTrack)

namespace Layout

def shortHeads (total : Nat) : Nat := max 4 (total / 17 ⌈/⌉ 1024)

theorem toNat_tracks_sixteenHeads (sectorsPerTrack total : UInt32) :
    (sixteenHeads sectorsPerTrack total).tracks.toNat = total.toNat / sectorsPerTrack.toNat :=
  UInt32.toNat_div total sectorsPerTrack

theorem toNat_tracks_shortTracks (total : UInt32) :
    (shortTracks total).tracks.toNat = total.toNat / 17 := UInt32.toNat_div total 17

/-- One more head for the tracks that are left over rounds the quotient up. -/
theorem toNat_heads_shortTracks (total : UInt32) :
    (shortTracks total).heads.toNat = shortHeads total.toNat := by
  have htracks : (total / 17).toNat = total.toNat / 17 := UInt32.toNat_div total 17
  have hlt := total.toNat_lt
  have hneeded : (total / 17 / 1024 + if total / 17 % 1024 = 0 then 0 else 1).toNat =
      total.toNat / 17 ⌈/⌉ 1024 := by
    have hquotient : (total / 17 / 1024).toNat = total.toNat / 17 / 1024 := by
      rw [UInt32.toNat_div, htracks]
      rfl
    have hrest : (total / 17 % 1024).toNat = total.toNat / 17 % 1024 := by
      rw [UInt32.toNat_mod, htracks]
      rfl
    rw [Nat.ceilDiv_eq_add_pred_div, UInt32.toNat_add, hquotient]
    by_cases hzero : total / 17 % 1024 = 0
    · rw [if_pos hzero]
      rw [hzero, UInt32.toNat_zero] at hrest
      rw [UInt32.toNat_zero]
      omega
    · rw [if_neg hzero]
      have hpos : total.toNat / 17 % 1024 ≠ 0 := by
        rw [← hrest]
        exact fun h => hzero (UInt32.toNat_inj.mp h)
      rw [UInt32.toNat_one]
      omega
  simp only [shortTracks, shortHeads]
  rw [UInt32.toNat_max, hneeded, Nat.max_comm]
  rfl

/-- The bound on the tracks is formed for at most 16 heads, so that it does not wrap. -/
theorem isAddressable_iff (l : Layout) :
    l.isAddressable = true ↔ l.heads.toNat ≤ 16 ∧ l.tracks.toNat < l.heads.toNat * 1024 := by
  have hheads : l.heads ≤ 16 ↔ l.heads.toNat ≤ 16 := UInt32.le_iff_toNat_le
  simp only [isAddressable, Bool.and_eq_true, decide_eq_true_eq, hheads, UInt32.lt_iff_toNat_lt,
    UInt32.toNat_mul]
  have hword : (1024 : UInt32).toNat = 1024 := rfl
  rw [hword]
  constructor
  · rintro ⟨hfew, htracks⟩
    exact ⟨hfew, by omega⟩
  · rintro ⟨hfew, htracks⟩
    exact ⟨hfew, by omega⟩

/-- The divisors of a layout are not zero, and its bound on the tracks does not wrap. -/
structure Exact (l : Layout) : Prop where
  sectorsPerTrack : l.sectorsPerTrack ≠ 0
  heads : l.heads ≠ 0
  bound : (l.heads * 1024).toNat = l.heads.toNat * 1024

theorem exact_sixteenHeads {sectorsPerTrack : UInt32} (h : sectorsPerTrack ≠ 0)
    (total : UInt32) : (sixteenHeads sectorsPerTrack total).Exact where
  sectorsPerTrack := h
  heads := show (16 : UInt32) ≠ 0 by decide
  bound := show ((16 : UInt32) * 1024).toNat = (16 : UInt32).toNat * 1024 by decide

theorem exact_shortTracks (total : UInt32) : (shortTracks total).Exact := by
  have hheads := toNat_heads_shortTracks total
  have hlt := total.toNat_lt
  rw [shortHeads, Nat.ceilDiv_eq_add_pred_div] at hheads
  refine ⟨show (17 : UInt32) ≠ 0 by decide, ?_, ?_⟩
  · intro hzero
    rw [hzero, UInt32.toNat_zero] at hheads
    omega
  · have hword : (1024 : UInt32).toNat = 1024 := rfl
    rw [UInt32.toNat_mul, hword]
    omega

def considered (total : UInt32) : List Layout :=
  [shortTracks total, sixteenHeads 31 total, sixteenHeads 63 total, sixteenHeads 255 total]

theorem exact_of_mem_considered {total : UInt32} {l : Layout} (h : l ∈ considered total) :
    l.Exact := by
  simp only [considered, List.mem_cons, List.not_mem_nil, or_false] at h
  rcases h with rfl | rfl | rfl | rfl
  · exact exact_shortTracks total
  · exact exact_sixteenHeads (by decide) total
  · exact exact_sixteenHeads (by decide) total
  · exact exact_sixteenHeads (by decide) total

/-- The layout that is taken for a number of sectors, by natural numbers: sectors per track, heads
and tracks of the first layout that is addressable. -/
inductive FirstFit (total : Nat) : Nat → Nat → Nat → Prop
  | longest (hlarge : 65535 * 16 * 63 ≤ total) : FirstFit total 255 16 (total / 255)
  | short (hsmall : total < 65535 * 16 * 63) (hheads : shortHeads total ≤ 16)
      (htracks : total / 17 < shortHeads total * 1024) :
      FirstFit total 17 (shortHeads total) (total / 17)
  | medium (hsmall : total < 65535 * 16 * 63)
      (hshort : shortHeads total ≤ 16 → shortHeads total * 1024 ≤ total / 17)
      (htracks : total / 31 < 16 * 1024) : FirstFit total 31 16 (total / 31)
  | long (hsmall : total < 65535 * 16 * 63)
      (hshort : shortHeads total ≤ 16 → shortHeads total * 1024 ≤ total / 17)
      (hmedium : 16 * 1024 ≤ total / 31) : FirstFit total 63 16 (total / 63)

namespace FirstFit

variable {total sectorsPerTrack heads tracks : Nat}

theorem heads_bounds (h : FirstFit total sectorsPerTrack heads tracks) :
    4 ≤ heads ∧ heads ≤ 16 := by
  cases h with
  | longest hlarge => omega
  | short hsmall hheads htracks => exact ⟨Nat.le_max_left 4 _, hheads⟩
  | medium hsmall hshort htracks => omega
  | long hsmall hshort hmedium => omega

theorem sectorsPerTrack_le (h : FirstFit total sectorsPerTrack heads tracks) :
    sectorsPerTrack ≤ 255 := by
  cases h <;> omega

theorem cylinders_lt (h : FirstFit total sectorsPerTrack heads tracks)
    (htotal : total ≤ 65535 * 16 * 255) : tracks / heads < 2 ^ 16 := by
  have hheads := h.heads_bounds.1
  rw [Nat.div_lt_iff_lt_mul (by omega)]
  cases h with
  | longest hlarge => omega
  | short hsmall hheads htracks => omega
  | medium hsmall hshort htracks => omega
  | long hsmall hshort hmedium => omega

/-- Looking for the first layout that fits comes to the same as revising one. -/
theorem derivation_eq {sectors : Nat}
    (h : FirstFit (min sectors (65535 * 16 * 255)) sectorsPerTrack heads tracks) :
    Chs.derivation sectors = (tracks / heads, heads, sectorsPerTrack) := by
  have hneeded : ∀ t, max 4 (t / 17 ⌈/⌉ 1024) = shortHeads t := fun _ => rfl
  unfold Chs.derivation
  simp only [Id.run, pure, hneeded]
  cases h with
  | longest hlarge => rw [if_neg (by omega)]
  | short hsmall hheads htracks =>
    rw [if_pos hsmall, if_neg (by omega), if_neg (by omega)]
  | medium hsmall hshort htracks => rw [if_pos hsmall, if_pos (by omega), if_neg (by omega)]
  | long hsmall hshort hmedium => rw [if_pos hsmall, if_pos (by omega), if_pos hmedium]

end FirstFit

end Layout

namespace Chs

open Layout

theorem firstFit_layout (total : UInt32) :
    FirstFit total.toNat (layout total).sectorsPerTrack.toNat (layout total).heads.toNat
      (layout total).tracks.toNat := by
  have hlarge : largeFrom ≤ total.toUInt64 ↔ 65535 * 16 * 63 ≤ total.toNat := by
    rw [UInt64.le_iff_toNat_le, UInt32.toNat_toUInt64]
    rfl
  have hshort := isAddressable_iff (shortTracks total)
  rw [toNat_heads_shortTracks, toNat_tracks_shortTracks] at hshort
  have hmedium := isAddressable_iff (sixteenHeads 31 total)
  rw [toNat_tracks_sixteenHeads] at hmedium
  unfold layout
  by_cases h : largeFrom ≤ total.toUInt64
  · rw [if_pos h, toNat_tracks_sixteenHeads]
    exact .longest (hlarge.mp h)
  · rw [if_neg h]
    have hsmall : total.toNat < 65535 * 16 * 63 := by
      rw [hlarge] at h
      omega
    cases hfits : (shortTracks total).isAddressable with
    | true =>
      obtain ⟨hheads, htracks⟩ := hshort.mp hfits
      rw [List.find?_cons_of_pos hfits, Option.getD_some, toNat_heads_shortTracks,
        toNat_tracks_shortTracks]
      exact .short hsmall hheads htracks
    | false =>
      have hnot : shortHeads total.toNat ≤ 16 →
          shortHeads total.toNat * 1024 ≤ total.toNat / 17 := by
        intro hheads
        by_contra htracks
        rw [hshort.mpr ⟨hheads, Nat.lt_of_not_le htracks⟩] at hfits
        nomatch hfits
      rw [List.find?_cons_of_neg (by simp [hfits])]
      cases hnext : (sixteenHeads 31 total).isAddressable with
      | true =>
        rw [List.find?_cons_of_pos hnext, Option.getD_some, toNat_tracks_sixteenHeads]
        exact .medium hsmall hnot (hmedium.mp hnext).2
      | false =>
        have hmany : 16 * 1024 ≤ total.toNat / 31 := by
          by_contra hfew
          rw [hmedium.mpr ⟨le_refl 16, Nat.lt_of_not_le hfew⟩] at hnext
          nomatch hnext
        rw [List.find?_cons_of_neg (by simp [hnext]), List.find?_nil, Option.getD_none,
          toNat_tracks_sixteenHeads]
        exact .long hsmall hnot hmany

theorem layout_mem_considered (total : UInt32) : layout total ∈ considered total := by
  unfold layout
  by_cases h : largeFrom ≤ total.toUInt64
  · simp [h, considered]
  · rw [if_neg h]
    cases hfind : [shortTracks total, sixteenHeads 31 total].find? isAddressable with
    | none => simp [considered]
    | some l =>
      have hmem := List.mem_of_find?_eq_some hfind
      simp only [List.mem_cons, List.not_mem_nil, or_false] at hmem
      rcases hmem with rfl | rfl
      · simp [considered]
      · simp [considered]

theorem toNat_counted (sectors : UInt64) :
    (min sectors capacity).toUInt32.toNat = min sectors.toNat (65535 * 16 * 255) := by
  have hcapacity : capacity.toNat = 65535 * 16 * 255 := rfl
  rw [UInt64.toNat_toUInt32, UInt64.toNat_min, hcapacity]
  exact Nat.mod_eq_of_lt (by omega)

end Chs

theorem Layout.toNat_toChs {l : Layout} (hcylinders : l.tracks.toNat / l.heads.toNat < 2 ^ 16)
    (hheads : l.heads.toNat < 2 ^ 8) (hsectors : l.sectorsPerTrack.toNat < 2 ^ 8) :
    l.toChs.cylinders.toNat = l.tracks.toNat / l.heads.toNat ∧
      l.toChs.heads.toNat = l.heads.toNat ∧
      l.toChs.sectorsPerTrack.toNat = l.sectorsPerTrack.toNat := by
  refine ⟨?_, ?_, ?_⟩
  · rw [toChs, UInt32.toNat_toUInt16, UInt32.toNat_div]
    exact Nat.mod_eq_of_lt hcylinders
  · rw [toChs, UInt32.toNat_toUInt8]
    exact Nat.mod_eq_of_lt hheads
  · rw [toChs, UInt32.toNat_toUInt8]
    exact Nat.mod_eq_of_lt hsectors

theorem Chs.firstFit_ofSectors (sectors : UInt64) :
    ∃ tracks, Layout.FirstFit (min sectors.toNat (65535 * 16 * 255))
        (ofSectors sectors).sectorsPerTrack.toNat (ofSectors sectors).heads.toNat tracks ∧
      (ofSectors sectors).cylinders.toNat = tracks / (ofSectors sectors).heads.toNat := by
  obtain ⟨total, hcounted⟩ : ∃ total, total = (min sectors capacity).toUInt32 := ⟨_, rfl⟩
  have htotal : total.toNat = min sectors.toNat (65535 * 16 * 255) := by
    rw [hcounted]
    exact toNat_counted sectors
  have hstored : ofSectors sectors = (layout total).toChs := by
    rw [hcounted]
    rfl
  have hfit := firstFit_layout total
  have hlength := hfit.sectorsPerTrack_le
  obtain ⟨-, hheads⟩ := hfit.heads_bounds
  obtain ⟨hc, hh, hs⟩ :=
    (layout total).toNat_toChs (hfit.cylinders_lt (by omega)) (by omega) (by omega)
  rw [hstored, hc, hh, hs, ← htotal]
  exact ⟨_, hfit, rfl⟩

/-- The geometry of a disk is the one derived step by step over the natural numbers. On the way the
counted sectors, the heads of short tracks, the bounds on the tracks and the fields of the geometry
keep their values, and nothing is divided by zero. -/
theorem Chs.ofSectors_eq_derivation (sectors : UInt64) :
    ((ofSectors sectors).cylinders.toNat, (ofSectors sectors).heads.toNat,
        (ofSectors sectors).sectorsPerTrack.toNat) = derivation sectors.toNat ∧
      let total := (min sectors capacity).toUInt32
      let l := layout total
      total.toNat = min sectors.toNat (65535 * 16 * 255) ∧
        (Layout.shortTracks total).heads.toNat = max 4 (total.toNat / 17 ⌈/⌉ 1024) ∧
        l ∈ Layout.considered total ∧ (∀ c ∈ Layout.considered total, c.Exact) ∧
        (ofSectors sectors).cylinders.toNat = l.tracks.toNat / l.heads.toNat ∧
        l.tracks.toNat / l.heads.toNat < 2 ^ 16 ∧
        (ofSectors sectors).heads.toNat = l.heads.toNat ∧
        4 ≤ l.heads.toNat ∧ l.heads.toNat ≤ 16 ∧
        (ofSectors sectors).sectorsPerTrack.toNat = l.sectorsPerTrack.toNat := by
  obtain ⟨total, hcounted⟩ : ∃ total, total = (min sectors capacity).toUInt32 := ⟨_, rfl⟩
  obtain ⟨l, hl⟩ : ∃ l, l = layout total := ⟨_, rfl⟩
  have htotal : total.toNat = min sectors.toNat (65535 * 16 * 255) := by
    rw [hcounted]
    exact toNat_counted sectors
  have hfit : Layout.FirstFit total.toNat l.sectorsPerTrack.toNat l.heads.toNat l.tracks.toNat := by
    rw [hl]
    exact firstFit_layout total
  have hwide := hfit.cylinders_lt (by omega)
  obtain ⟨hlow, hhigh⟩ := hfit.heads_bounds
  have hlength := hfit.sectorsPerTrack_le
  obtain ⟨hcylinders, hheads, hsectors⟩ := l.toNat_toChs hwide (by omega) (by omega)
  have hstored : ofSectors sectors = l.toChs := by
    rw [hl, hcounted]
    rfl
  rw [htotal] at hfit
  rw [hstored, hcylinders, hheads, hsectors, hfit.derivation_eq]
  subst hl hcounted
  exact ⟨rfl, htotal, Layout.toNat_heads_shortTracks _, layout_mem_considered _,
    fun c => Layout.exact_of_mem_considered, rfl, hwide, rfl, hlow, hhigh, rfl⟩

/-- The largest disk with tracks of 17 sectors, and the next. -/
example : Chs.ofSectors 278527 = ⟨1023, 16, 17⟩ ∧ Chs.ofSectors 278528 = ⟨561, 16, 31⟩ := by
  decide

end BootMedia
