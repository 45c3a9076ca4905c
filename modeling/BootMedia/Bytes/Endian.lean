import BootMedia.Bytes

/-!
Numbers as byte strings of a fixed width, most or least significant byte first.
-/
namespace BootMedia

namespace BigEndian

/-- The low `width` bytes of a number, most significant first. -/
def encode : Nat → Nat → Bytes
  | 0, _ => []
  | width + 1, n => encode width (n / 256) ++ [UInt8.ofNat n]

def decode (b : Bytes) : Nat := b.foldl (fun n x => n * 256 + x.toNat) 0

@[simp] theorem length_encode (width n : Nat) : (encode width n).length = width := by
  induction width generalizing n with
  | zero => rfl
  | succ width ih => simp [encode, ih]

def block (width n : Nat) : Block width := ⟨encode width n, length_encode width n⟩

end BigEndian

namespace LittleEndian

def decode (b : Bytes) : Nat := b.foldr (fun x n => x.toNat + 256 * n) 0

end LittleEndian

end BootMedia
