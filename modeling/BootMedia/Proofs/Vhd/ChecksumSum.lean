import BootMedia.Vhd.Checksum
import BootMedia.Proofs.Bytes.Fields

/-!
The checksum as arithmetic over the natural numbers. The 32-bit sum never wraps, so the checksum
is the distance of the plain sum from its largest value; replacing one byte changes it exactly
when the byte lies outside the checksum field.
-/
namespace BootMedia.Checksum

def plainSum (b : Bytes) : Nat := (b.map UInt8.toNat).sum

@[simp] theorem plainSum_append (a b : Bytes) : plainSum (a ++ b) = plainSum a + plainSum b := by
  simp [plainSum]

theorem plainSum_le (b : Bytes) : plainSum b ≤ 255 * b.length := by
  induction b with
  | nil => simp [plainSum]
  | cons x b ih =>
    have hx := x.toNat_lt
    simp only [plainSum, List.map_cons, List.sum_cons, List.length_cons] at ih ⊢
    omega

/-- Replacing a byte trades its value for the new one. -/
theorem plainSum_set (b : Bytes) (i : Nat) (x : UInt8) (h : i < b.length) :
    plainSum (b.set i x) + b[i].toNat = plainSum b + x.toNat := by
  induction b generalizing i with
  | nil => simp at h
  | cons y b ih =>
    cases i with
    | zero =>
      simp only [plainSum, List.set_cons_zero, List.map_cons, List.sum_cons,
        List.getElem_cons_zero]
      omega
    | succ i =>
      have hrest := ih i (by simpa using h)
      simp only [plainSum, List.set_cons_succ, List.map_cons, List.sum_cons,
        List.getElem_cons_succ] at hrest ⊢
      omega

private theorem foldl_toNat (b : Bytes) (start : UInt32) :
    (b.foldl (fun sum x => sum + x.toUInt32) start).toNat =
      (start.toNat + plainSum b) % 2 ^ 32 := by
  induction b generalizing start with
  | nil => simp [plainSum, Nat.mod_eq_of_lt start.toNat_lt]
  | cons x b ih =>
    rw [List.foldl_cons, ih, UInt32.toNat_add, UInt8.toNat_toUInt32]
    simp only [plainSum, List.map_cons, List.sum_cons, Nat.mod_add_mod, Nat.add_assoc]

theorem toNat_byteSum {b : Bytes} (h : plainSum b < 2 ^ 32) : (byteSum b).toNat = plainSum b := by
  rw [byteSum, foldl_toNat, UInt32.toNat_zero, Nat.zero_add]
  exact Nat.mod_eq_of_lt h

theorem length_covered (r : Record) : (covered r).length = 508 := by
  simp [covered, offset, width, r.length_eq]

/-- The sum over a record is too small to wrap. -/
theorem plainSum_covered_le (r : Record) : plainSum (covered r) ≤ 129540 := by
  have h := plainSum_le (covered r)
  rwa [length_covered] at h

/-- The checksum is the plain sum, counted down from the largest 32-bit number. -/
theorem toNat_ofRecord (r : Record) :
    (ofRecord r).toNat = 2 ^ 32 - 1 - plainSum (covered r) := by
  have hle := plainSum_covered_le r
  have hsum : (byteSum (covered r)).toNat = plainSum (covered r) := toNat_byteSum (by omega)
  have hnot := UInt32.toNat_not (byteSum (covered r))
  rw [hsum] at hnot
  exact hnot

theorem ofRecord_eq_iff (r s : Record) :
    ofRecord r = ofRecord s ↔ plainSum (covered r) = plainSum (covered s) := by
  have hr := plainSum_covered_le r
  have hs := plainSum_covered_le s
  rw [← UInt32.toNat_inj, toNat_ofRecord, toNat_ofRecord]
  omega

theorem ofRecord_congr {r s : Record} (h : covered r = covered s) : ofRecord r = ofRecord s := by
  rw [ofRecord, ofRecord, h]

theorem ofRecord_set_inside (r : Record) (i : Nat) (b : UInt8) (hlow : offset ≤ i)
    (hhigh : i < offset + width) : ofRecord (r.set i b) = ofRecord r := by
  apply ofRecord_congr
  simp only [covered, Block.set, List.take_set_of_le hlow, List.drop_set_of_lt hhigh]

theorem plainSum_covered_set (r : Record) (i : Nat) (b : UInt8) (h : i < 512)
    (hi : i < offset ∨ offset + width ≤ i) :
    plainSum (covered (r.set i b)) + (r.byte i h).toNat = plainSum (covered r) + b.toNat := by
  have hin : i < r.bytes.length := by
    rw [r.length_eq]
    exact h
  have hbyte : r.byte i h = r.bytes[i] := rfl
  rcases hi with hlow | hhigh
  · have hlength : i < (r.bytes.take offset).length := by
      rw [List.length_take, r.length_eq]
      simp only [offset] at hlow ⊢
      omega
    have hsum := plainSum_set (r.bytes.take offset) i b hlength
    rw [List.getElem_take] at hsum
    simp only [covered, Block.set, plainSum_append, List.take_set,
      List.drop_set_of_lt (Nat.lt_of_lt_of_le hlow (Nat.le_add_right offset width)), hbyte]
    omega
  · have hlength : i - (offset + width) < (r.bytes.drop (offset + width)).length := by
      rw [List.length_drop, r.length_eq]
      omega
    have hsum := plainSum_set (r.bytes.drop (offset + width)) (i - (offset + width)) b hlength
    have hidx : offset + width + (i - (offset + width)) = i := by omega
    simp only [List.getElem_drop, hidx] at hsum
    simp only [covered, Block.set, plainSum_append, List.drop_set,
      List.take_set_of_le (Nat.le_trans (Nat.le_add_right offset width) hhigh),
      Nat.not_lt.mpr hhigh, if_false, hbyte]
    omega

/-- Any other byte counts, and a new value changes the checksum. -/
theorem ofRecord_set_outside (r : Record) (i : Nat) (b : UInt8) (h : i < 512)
    (hi : i < offset ∨ offset + width ≤ i) (hb : b ≠ r.byte i h) :
    ofRecord (r.set i b) ≠ ofRecord r := by
  intro heq
  have hsame := (ofRecord_eq_iff (r.set i b) r).mp heq
  have htrade := plainSum_covered_set r i b h hi
  apply hb
  apply UInt8.toNat_inj.mp
  omega

end BootMedia.Checksum
