import BootMedia.Partition.Gpt
import BootMedia.Partition.Mbr

/-!
The partitions of an image: those of its boot record, or of the table behind it when the record
holds nothing but a protective slot.
-/
namespace BootMedia.PartitionTable

def read (image : Bytes) : TableAnswer :=
  let sector := image.take 512
  if sector.length < 512 then .unusable .imageTooShort
  else if sector.drop 510 ≠ [0x55, 0xAA] then .unusable .noSignature
  else match MbrSlot.readAll sector [0, 1, 2, 3] with
    | .error reason => .unusable reason
    | .ok [slot] =>
      if slot.isProtective then GptHeader.read image slot.firstByte else .partitions 1
    | .ok slots => .partitions slots.length

end BootMedia.PartitionTable
