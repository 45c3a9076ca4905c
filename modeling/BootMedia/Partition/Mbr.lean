import BootMedia.Bytes.Endian
import BootMedia.Partition.TableError

/-!
The partition slots of a master boot record: four entries of 16 bytes from offset 446, then the
signature 55 AA. A slot of type 0 is unused, but its status is checked all the same.
-/
namespace BootMedia

/-- A used slot of a boot record. -/
structure MbrSlot where
  index : Nat
  bootable : Bool
  kind : UInt8
  firstByte : Nat
deriving DecidableEq

namespace MbrSlot

/-- The slot covers the whole disk for the sake of older tools, and a newer table follows. -/
def isProtective (s : MbrSlot) : Bool :=
  s.index == 0 && s.kind == 0xEE && !s.bootable && s.firstByte ≤ 16384

/-- Slot `index` of a boot record, if it is used. -/
def read (sector : Bytes) (index : Nat) : Except TableError (Option MbrSlot) :=
  let entry := (sector.drop (446 + 16 * index)).take 16
  let status := entry.headD 0
  let kind := entry.getD 4 0
  if status ≠ 0x00 ∧ status ≠ 0x80 then .error (.badStatus index status)
  else if kind = 0 then .ok none
  else .ok (some ⟨index, status == 0x80, kind, LittleEndian.decode ((entry.drop 8).take 4) * 512⟩)

def readAll (sector : Bytes) : List Nat → Except TableError (List MbrSlot)
  | [] => .ok []
  | i :: rest =>
    match read sector i with
    | .error e => .error e
    | .ok slot =>
      match readAll sector rest with
      | .error e => .error e
      | .ok slots => .ok (slot.toList ++ slots)

end MbrSlot

end BootMedia
