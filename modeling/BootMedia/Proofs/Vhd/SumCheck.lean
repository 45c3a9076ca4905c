import BootMedia.Proofs.Vhd.RoundTrip

/-!
What the checksum of a record can tell. It is the plain sum of the bytes outside its own field,
counted down from the largest 32-bit number, and no addition on the way to it wraps. Main
statement: of two records with one stored checksum, of which one verifies, the other one does
exactly if its bytes have the same sum.
-/
namespace BootMedia

namespace Checksum

/-- The sum of the bytes outside the checksum field, over their offsets in the record. -/
def sumOutside (r : Record) : Nat :=
  ∑ i ∈ Finset.range 512 with ¬ (64 ≤ i ∧ i < 68), (r.bytes.getD i 0).toNat

theorem plainSum_eq_sum (b : Bytes) :
    plainSum b = ∑ i ∈ Finset.range b.length, (b.getD i 0).toNat := by
  induction b with
  | nil => rfl
  | cons x b ih =>
    have hlater : ∀ i, (x :: b).getD (i + 1) 0 = b.getD i 0 := fun _ => rfl
    rw [List.length_cons, Finset.sum_range_succ', Finset.sum_congr rfl fun i _ => by rw [hlater i],
      ← ih, Nat.add_comm]
    rfl

theorem plainSum_covered (r : Record) : plainSum (covered r) = sumOutside r := by
  have houtside : {i ∈ Finset.range 512 | ¬ (64 ≤ i ∧ i < 68)} =
      Finset.range 64 ∪ Finset.Ico 68 512 := by
    ext i
    simp only [Finset.mem_filter, Finset.mem_range, Finset.mem_union, Finset.mem_Ico]
    omega
  have hapart : Disjoint (Finset.range 64) (Finset.Ico 68 512) := by
    rw [Finset.disjoint_left]
    intro i hi
    simp only [Finset.mem_range, Finset.mem_Ico] at hi ⊢
    omega
  have hfront : plainSum (r.bytes.take 64) =
      ∑ i ∈ Finset.range 64, (r.bytes.getD i 0).toNat := by
    rw [plainSum_eq_sum, List.length_take, r.length_eq]
    refine Finset.sum_congr rfl fun i hi => ?_
    rw [List.getD_eq_getElem?_getD, List.getElem?_take_of_lt (Finset.mem_range.mp hi),
      ← List.getD_eq_getElem?_getD]
  have hback : plainSum (r.bytes.drop 68) =
      ∑ i ∈ Finset.Ico 68 512, (r.bytes.getD i 0).toNat := by
    rw [plainSum_eq_sum, List.length_drop, r.length_eq, Finset.sum_Ico_eq_sum_range]
    refine Finset.sum_congr rfl fun i _ => ?_
    rw [List.getD_eq_getElem?_getD, List.getElem?_drop, ← List.getD_eq_getElem?_getD]
  rw [sumOutside, houtside, Finset.sum_union hapart, ← hfront, ← hback]
  exact plainSum_append _ _

theorem sumOutside_le (r : Record) : sumOutside r ≤ 508 * 255 :=
  plainSum_covered r ▸ plainSum_covered_le r

/-- The checksum and the sum it is about add up to the largest 32-bit number. -/
theorem ofRecord_add_sumOutside (r : Record) : (ofRecord r).toNat + sumOutside r = 2 ^ 32 - 1 := by
  have hle := sumOutside_le r
  rw [toNat_ofRecord, plainSum_covered]
  omega

/-- Wherever the summing up has got to, the next byte still fits into 32 bits. -/
theorem byteSum_add_lt {r : Record} {front rest : Bytes} {x : UInt8}
    (hcovered : covered r = front ++ x :: rest) :
    (byteSum front).toNat + x.toNat < 2 ^ 32 := by
  have hle := plainSum_covered_le r
  have hsplit : plainSum (covered r) = plainSum front + (x.toNat + plainSum rest) := by
    rw [hcovered, plainSum_append]
    rfl
  rw [toNat_byteSum (by omega)]
  omega

theorem ofRecord_eq_iff_sumOutside (r s : Record) :
    ofRecord s = ofRecord r ↔ sumOutside s = sumOutside r := by
  rw [ofRecord_eq_iff, plainSum_covered, plainSum_covered]

theorem sumOutside_congr {r s : Record}
    (h : ∀ i < 512, ¬ (64 ≤ i ∧ i < 68) → s.bytes.getD i 0 = r.bytes.getD i 0) :
    sumOutside s = sumOutside r := by
  refine Finset.sum_congr rfl fun i hi => ?_
  rw [Finset.mem_filter, Finset.mem_range] at hi
  rw [h i hi.1 hi.2]

theorem sumOutside_set (r : Record) (i : Nat) (b : UInt8) (h : i < 512) (hi : i < 64 ∨ 68 ≤ i) :
    sumOutside (r.set i b) + (r.byte i h).toNat = sumOutside r + b.toNat := by
  rw [← plainSum_covered, ← plainSum_covered]
  exact plainSum_covered_set r i b h hi

end Checksum

namespace Footer

/-- A record verifies if it carries the checksum of its bytes. -/
theorem mismatch?_decode_eq_none_iff (r : Record) :
    (decode r).mismatch? = none ↔ (decode r).checksum = Checksum.ofRecord r := by
  rw [mismatch?_eq_none_iff, expectedChecksum_decode]

end Footer

/-- The checksum of a record is exactly the complement of the sum of the bytes outside its field, so
it is never below `0xFFFE05FB`. What is not noticed are the changes that keep this sum. -/
theorem checksum_complements_sum (r : Record) :
    (Checksum.ofRecord r).toNat = 2 ^ 32 - 1 - Checksum.sumOutside r ∧
      Checksum.sumOutside r ≤ 508 * 255 ∧
      (∀ front x rest, Checksum.covered r = front ++ x :: rest →
        (Checksum.byteSum front).toNat + x.toNat < 2 ^ 32) ∧
      0xFFFE05FB ≤ Checksum.ofRecord r ∧ Checksum.ofRecord r ≤ 0xFFFFFFFF ∧
      (∀ s : Record,
        (∀ i < 512, ¬ (64 ≤ i ∧ i < 68) → s.bytes.getD i 0 = r.bytes.getD i 0) →
        Checksum.ofRecord s = Checksum.ofRecord r) ∧
      (∀ s : Record, (Footer.decode r).mismatch? = none →
        (Footer.decode s).checksum = (Footer.decode r).checksum →
        ((Footer.decode s).mismatch? = none ↔ Checksum.sumOutside s = Checksum.sumOutside r)) ∧
      ((Footer.decode r).checksum < 0xFFFE05FB → (Footer.decode r).mismatch? ≠ none) := by
  have hadd := Checksum.ofRecord_add_sumOutside r
  have hle := Checksum.sumOutside_le r
  have hlow : 0xFFFE05FB ≤ Checksum.ofRecord r := by
    rw [UInt32.le_iff_toNat_le]
    change 0xFFFE05FB ≤ (Checksum.ofRecord r).toNat
    omega
  have hhigh : Checksum.ofRecord r ≤ 0xFFFFFFFF := by
    rw [UInt32.le_iff_toNat_le]
    exact Nat.le_of_lt_succ (Checksum.ofRecord r).toNat_lt
  refine ⟨by omega, hle, fun front x rest => Checksum.byteSum_add_lt, hlow, hhigh, fun s hsame => ?_,
    fun s hr hstored => ?_, fun hsmall hr => ?_⟩
  · exact (Checksum.ofRecord_eq_iff_sumOutside r s).mpr (Checksum.sumOutside_congr hsame)
  · rw [Footer.mismatch?_decode_eq_none_iff] at hr ⊢
    rw [hstored, hr, eq_comm]
    exact Checksum.ofRecord_eq_iff_sumOutside r s
  · rw [Footer.mismatch?_decode_eq_none_iff] at hr
    rw [hr] at hsmall
    exact absurd hlow (UInt32.not_le.mpr hsmall)

/-- A record in which one byte lost what another one gained verifies as before. -/
theorem checksum_complements_sum_traded :
    let r := (Footer.fixed 0 7 none Footer.defaultTags).encode
    let s := (r.set 11 1).set 84 1
    s ≠ r ∧ (Footer.decode r).mismatch? = none ∧
      (Footer.decode s).checksum = (Footer.decode r).checksum ∧
      Checksum.sumOutside s = Checksum.sumOutside r ∧ (Footer.decode s).mismatch? = none := by
  intro r s
  have hr : (Footer.decode r).mismatch? = none := by
    rw [Footer.decode_encode]
    exact (Footer.mismatch?_eq_none_iff _).mpr (Footer.checksum_fixed 0 7 none Footer.defaultTags)
  have hfield : s.slice 64 4 (by decide) = r.slice 64 4 (by decide) := by
    rw [Block.slice_set_of_outside _ 84 1 64 4 (by decide) (by decide),
      Block.slice_set_of_outside _ 11 1 64 4 (by decide) (by decide)]
  have hstored : (Footer.decode s).checksum = (Footer.decode r).checksum := by
    simp only [Footer.decode, Footer.number, hfield]
  have hold : (r.byte 11 (by decide)).toNat = 2 := by decide
  have hfree : ((r.set 11 1).byte 84 (by decide)).toNat = 0 := by decide
  have hlost : Checksum.sumOutside (r.set 11 1) + 2 = Checksum.sumOutside r + 1 :=
    hold ▸ Checksum.sumOutside_set r 11 1 (by decide) (by decide)
  have hgained : Checksum.sumOutside s + 0 = Checksum.sumOutside (r.set 11 1) + 1 :=
    hfree ▸ Checksum.sumOutside_set (r.set 11 1) 84 1 (by decide) (by decide)
  have hsum : Checksum.sumOutside s = Checksum.sumOutside r := by omega
  have hother : s ≠ r := by
    intro heq
    have hbyte : s.byte 11 (by decide) = 1 := by decide
    rw [heq] at hbyte
    rw [hbyte] at hold
    exact absurd hold (by decide)
  obtain ⟨-, -, -, -, -, -, hverifies, -⟩ := checksum_complements_sum r
  exact ⟨hother, hr, hstored, hsum, (hverifies s hr hstored).mpr hsum⟩

end BootMedia
