import BootMedia.Bytes

/-!
The 32-bit cyclic redundancy check with the reflected polynomial 0xEDB88320, bit by bit.
-/
namespace BootMedia.Crc32

/-- One bit of a division step. -/
def shift (r : UInt32) : UInt32 :=
  if r &&& 1 = 1 then (r >>> 1) ^^^ 0xEDB88320 else r >>> 1

def step (r : UInt32) (b : UInt8) : UInt32 :=
  shift (shift (shift (shift (shift (shift (shift (shift (r ^^^ b.toUInt32))))))))

def ofBytes (b : Bytes) : UInt32 := ~~~ b.foldl step 0xFFFFFFFF

end BootMedia.Crc32
