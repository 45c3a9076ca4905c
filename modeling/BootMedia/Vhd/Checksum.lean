import BootMedia.Bytes
import BootMedia.Text.Numeral

/-!
The checksum of a footer record: the complement of the sum of its bytes, with the four bytes of
the checksum field left out.
-/
namespace BootMedia

abbrev Record := Block 512

namespace Checksum

def offset : Nat := 64

def width : Nat := 4

/-- The sum of all bytes in 32-bit arithmetic. -/
def byteSum (b : Bytes) : UInt32 := b.foldl (fun sum x => sum + x.toUInt32) 0

def covered (r : Record) : Bytes := r.bytes.take offset ++ r.bytes.drop (offset + width)

def ofRecord (r : Record) : UInt32 := ~~~ byteSum (covered r)

end Checksum

structure ChecksumMismatch where
  stored : UInt32
  computed : UInt32
deriving DecidableEq

def ChecksumMismatch.text (m : ChecksumMismatch) : String :=
  "checksum: " ++ Numeral.padLeft '0' 8 (Numeral.hexUpper m.stored.toNat) ++
    ", expected: " ++ Numeral.padLeft '0' 8 (Numeral.hexUpper m.computed.toNat)

end BootMedia
