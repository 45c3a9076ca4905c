/-!
Byte strings and blocks of a fixed length. A record on disk is a block; a field of it is a slice,
and the record is the join of its fields.
-/
namespace BootMedia

abbrev Bytes := List UInt8

/-- Exactly `n` bytes. -/
@[ext] structure Block (n : Nat) where
  bytes : Bytes
  length_eq : bytes.length = n
deriving DecidableEq

namespace Block

def zero (n : Nat) : Block n := ⟨List.replicate n 0, List.length_replicate⟩

/-- A byte string cut, or filled up with zeros, to length `n`. -/
def fit (n : Nat) (b : Bytes) : Block n :=
  ⟨b.take n ++ List.replicate (n - b.length) 0, by
    simp only [List.length_append, List.length_take, List.length_replicate]; omega⟩

theorem fit_bytes_eq {n : Nat} {b : Bytes} (h : b.length = n) : (fit n b).bytes = b := by
  simp [fit, h.symm]

def slice {n : Nat} (r : Block n) (start width : Nat) (h : start + width ≤ n) : Block width :=
  ⟨(r.bytes.drop start).take width, by
    simp only [List.length_take, List.length_drop, r.length_eq]; omega⟩

def byte {n : Nat} (r : Block n) (i : Nat) (h : i < n) : UInt8 :=
  r.bytes.get ⟨i, by rw [r.length_eq]; exact h⟩

end Block

end BootMedia
