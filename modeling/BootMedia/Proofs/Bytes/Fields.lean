import BootMedia.Bytes.Endian
import Mathlib

/-!
Fields of a block. A big-endian field determines its bytes and its number, neighbouring slices
join, and changing one byte of a block changes exactly the slices that hold its offset.
-/
namespace BootMedia

namespace BigEndian

@[simp] theorem decode_append_singleton (b : Bytes) (x : UInt8) :
    decode (b ++ [x]) = decode b * 256 + x.toNat := by
  simp [decode]

theorem decode_lt (b : Bytes) : decode b < 256 ^ b.length := by
  induction b using List.reverseRecOn with
  | nil => simp [decode]
  | append_singleton b x ih =>
    have hx := x.toNat_lt
    rw [decode_append_singleton, List.length_append, List.length_singleton, Nat.pow_succ]
    omega

/-- A number is read back modulo the width of its field. -/
theorem decode_encode (width n : Nat) : decode (encode width n) = n % 256 ^ width := by
  induction width generalizing n with
  | zero => simp [encode, decode, Nat.mod_one]
  | succ width ih =>
    have hsplit : n % 256 ^ (width + 1) = n % 256 + 256 * (n / 256 % 256 ^ width) := by
      rw [Nat.pow_succ', Nat.mod_mul]
    have hdigit : (UInt8.ofNat n).toNat = n % 256 := UInt8.toNat_ofNat'
    rw [encode, decode_append_singleton, ih, hdigit, hsplit, Nat.add_comm, Nat.mul_comm]

/-- What was read is written back byte for byte. -/
theorem encode_decode (b : Bytes) : encode b.length (decode b) = b := by
  induction b using List.reverseRecOn with
  | nil => rfl
  | append_singleton b x ih =>
    have hx := x.toNat_lt
    have hdigit : UInt8.ofNat (decode b * 256 + x.toNat) = x := by
      apply UInt8.toNat_inj.mp
      rw [UInt8.toNat_ofNat']
      omega
    have hrest : (decode b * 256 + x.toNat) / 256 = decode b := by omega
    rw [decode_append_singleton, List.length_append, List.length_singleton, encode, hrest, hdigit,
      ih]

theorem decode_injective {a b : Bytes} (hlength : a.length = b.length)
    (h : decode a = decode b) : a = b := by
  rw [← encode_decode a, ← encode_decode b, hlength, h]

end BigEndian

namespace Block

variable {n : Nat}

theorem slice_append_slice (r : Block n) (start width more : Nat) (h : start + width ≤ n)
    (h' : start + width + more ≤ n) :
    (r.slice start width h).bytes ++ (r.slice (start + width) more h').bytes =
      (r.slice start (width + more) (by omega)).bytes := by
  simp only [slice, ← List.drop_drop, List.take_add]

theorem slice_all (r : Block n) : (r.slice 0 n (by omega)).bytes = r.bytes := by
  simp only [slice, List.drop_zero]
  exact List.take_of_length_le (Nat.le_of_eq r.length_eq)

theorem singleton_byte (r : Block n) (i : Nat) (h : i < n) :
    [r.byte i h] = (r.slice i 1 h).bytes := by
  have hlength : i < r.bytes.length := by rw [r.length_eq]; exact h
  change [r.byte i h] = (r.bytes.drop i).take 1
  rw [List.drop_eq_getElem_cons hlength]
  rfl

theorem byte_of_slice {r : Block n} {i : Nat} {h : i < n} {x : UInt8}
    (hslice : (r.slice i 1 h).bytes = [x]) : r.byte i h = x := by
  rw [← singleton_byte] at hslice
  exact List.singleton_inj.mp hslice

def set (r : Block n) (i : Nat) (b : UInt8) : Block n :=
  ⟨r.bytes.set i b, by rw [List.length_set, r.length_eq]⟩

@[simp] theorem bytes_set (r : Block n) (i : Nat) (b : UInt8) :
    (r.set i b).bytes = r.bytes.set i b := rfl

theorem slice_set_of_outside (r : Block n) (i : Nat) (b : UInt8) (start width : Nat)
    (h : start + width ≤ n) (hi : i < start ∨ start + width ≤ i) :
    (r.set i b).slice start width h = r.slice start width h := by
  apply Block.ext
  apply List.ext_getElem
  · simp [slice, set]
  · intro j hj hj'
    have hwidth : j < width := by
      rwa [((r.set i b).slice start width h).length_eq] at hj
    have hne : i ≠ start + j := by omega
    simp [slice, set, List.getElem_set_ne hne]

theorem slice_set_ne (r : Block n) (i : Nat) (b : UInt8) (start width : Nat)
    (h : start + width ≤ n) (hlow : start ≤ i) (hhigh : i < start + width)
    (hb : b ≠ r.byte i (by omega)) :
    (r.set i b).slice start width h ≠ r.slice start width h := by
  intro heq
  have hlength : i < r.bytes.length := by rw [r.length_eq]; omega
  have hread := congrArg (fun s => s.bytes[i - start]?) heq
  have hidx : start + (i - start) = i := by omega
  have hwidth : i - start < width := by omega
  simp only [slice, set, List.getElem?_take_of_lt hwidth, List.getElem?_drop, hidx,
    List.getElem?_set_self hlength, List.getElem?_eq_getElem hlength, Option.some.injEq] at hread
  exact hb hread

end Block

end BootMedia
