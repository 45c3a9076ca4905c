import BootMedia.Bytes.Crc32
import BootMedia.Bytes.Endian
import BootMedia.Partition.TableError
import BootMedia.Text.Utf16

/-!
The table behind a protective boot record: a header in the second sector and the entries from the
third on, both guarded by checksums. The checks of the header come in a fixed order, and the
first that fails names the reason.
-/
namespace BootMedia

/-- The fields of a header that are checked or used. -/
structure GptHeader where
  headerSize : Nat
  headerChecksum : UInt32
  reservedField : Nat
  currentLba : Nat
  firstUsable : Nat
  lastUsable : Nat
  tableLba : Nat
  entryCount : Nat
  entrySize : Nat
  tableChecksum : UInt32

namespace GptHeader

def field (header : Bytes) (start width : Nat) : Nat :=
  LittleEndian.decode ((header.drop start).take width)

def ofBytes (header : Bytes) : GptHeader where
  headerSize := field header 12 4
  headerChecksum := UInt32.ofNat (field header 16 4)
  reservedField := field header 20 4
  currentLba := field header 24 8
  firstUsable := field header 40 8
  lastUsable := field header 48 8
  tableLba := field header 72 8
  entryCount := field header 80 4
  entrySize := field header 84 4
  tableChecksum := UInt32.ofNat (field header 88 4)

/-- The text `EFI PART`. -/
def signature : Bytes := [0x45, 0x46, 0x49, 0x20, 0x50, 0x41, 0x52, 0x54]

def revision : Bytes := [0, 0, 1, 0]

/-- The checksum of a header, with its own field counted as zero. -/
def ownChecksum (header : Bytes) (headerSize : Nat) : UInt32 :=
  Crc32.ofBytes (header.take 16 ++ [0, 0, 0, 0] ++ (header.take headerSize).drop 20)

def tableSize (h : GptHeader) : Nat := h.entrySize * h.entryCount

/-- The checks after the header's own checksum, first to last. -/
def checks (header : Bytes) (sector : Nat) (h : GptHeader) : List (Bool × TableError) :=
  [(h.reservedField == 0, .reservedField),
   (h.currentLba == 1, .currentLba),
   (h.firstUsable ≤ h.lastUsable, .usableBackwards),
   (h.lastUsable ≤ 0xFFFFFFFFFFFFFFFF / sector, .beyondAddressSpace),
   (h.tableLba == 2, .startingLba),
   (h.entryCount ≤ 65535, .entryCount),
   (h.entrySize ≤ 65535, .entrySizeLarge),
   (128 ≤ h.entrySize, .entrySizeSmall),
   (2 + h.tableSize / sector ≤ h.firstUsable, .firstUsableLow),
   ((header.drop h.headerSize).all (· == 0), .headerTail)]

end GptHeader

namespace GptEntry

def isUsed (entry : Bytes) : Bool := (entry.take 16).any (· != 0)

def inRange (h : GptHeader) (entry : Bytes) : Bool :=
  let first := GptHeader.field entry 32 8
  let last := GptHeader.field entry 40 8
  first ≤ last && h.firstUsable ≤ first && last ≤ h.lastUsable

def units : Bytes → List Nat
  | low :: high :: rest => (low.toNat + 256 * high.toNat) :: units rest
  | _ => []

def nameUnits (entry : Bytes) : List Nat :=
  (units ((entry.drop 56).take 72)).takeWhile (· != 0)

/-- Counts the used entries of a table from entry number `index` on. -/
def count (h : GptHeader) : Nat → Nat → Bytes → TableAnswer
  | 0, _, _ => .partitions 0
  | left + 1, index, table =>
    let entry := table.take h.entrySize
    if !isUsed entry then count h left (index + 1) (table.drop h.entrySize)
    else if !inRange h entry then .unusable .entryOutOfRange
    else if !Utf16.wellFormed (nameUnits entry) then .unusable (.entryName index)
    else match count h left (index + 1) (table.drop h.entrySize) with
      | .partitions n => .partitions (n + 1)
      | answer => answer

end GptEntry

namespace GptHeader

def read (image : Bytes) (sector : Nat) : TableAnswer :=
  let header := (image.drop sector).take sector
  if header.length < sector then .unusable .tableCutShort
  else if sector = 0 then .crash .emptySector
  else if header.take 8 ≠ signature then .unusable .badGptSignature
  else if (header.drop 8).take 4 ≠ revision then .unusable .unsupportedRevision
  else
    let h := ofBytes header
    if h.headerSize < 92 then .unusable .headerTooShort
    else if sector < h.headerSize then .crash .headerBeyondSector
    else if ownChecksum header h.headerSize ≠ h.headerChecksum then .unusable .headerChecksum
    else match (checks header sector h).find? fun c => !c.1 with
      | some (_, reason) => .unusable reason
      | none =>
        let table := (image.drop (2 * sector)).take h.tableSize
        if table.length < h.tableSize then .unusable .tableCutShort
        else if Crc32.ofBytes table ≠ h.tableChecksum then .unusable .tableChecksum
        else GptEntry.count h h.entryCount 0 table

end GptHeader

end BootMedia
