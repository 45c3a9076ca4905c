import BootMedia.Bytes
import BootMedia.Text.Numeral

/-!
The sixteen-byte identity of a disk, and how it is drawn from random bytes and written.
-/
namespace BootMedia

abbrev UniqueId := Block 16

namespace UniqueId

def nil : UniqueId := Block.zero 16

/-- Random bytes with the marks of a version 4 identity of the standard variant. -/
def ofRandom (r : Block 16) : UniqueId :=
  ⟨(r.bytes.set 6 (r.byte 6 (by decide) &&& 0x0F ||| 0x40)).set 8
    (r.byte 8 (by decide) &&& 0x3F ||| 0x80), by simp [r.length_eq]⟩

def isRandom (u : UniqueId) : Bool :=
  u.byte 6 (by decide) >>> 4 == 4 && u.byte 8 (by decide) >>> 6 == 2

def hexBytes (b : Bytes) : String :=
  String.join (b.map fun x => Numeral.padLeft '0' 2 (Numeral.hexLower x.toNat))

def text (u : UniqueId) : String :=
  "-".intercalate
    [hexBytes (u.slice 0 4 (by decide)).bytes, hexBytes (u.slice 4 2 (by decide)).bytes,
     hexBytes (u.slice 6 2 (by decide)).bytes, hexBytes (u.slice 8 2 (by decide)).bytes,
     hexBytes (u.slice 10 6 (by decide)).bytes]

end UniqueId

end BootMedia
