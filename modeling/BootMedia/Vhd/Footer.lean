import BootMedia.Disk.Geometry
import BootMedia.Vhd.Checksum
import BootMedia.Vhd.UniqueId

/-!
The 512-byte footer of a virtual hard disk. All numbers are big-endian, the fields follow each
other without gaps, and the footer of a fixed disk is determined by the size of its payload, a
time, an identity and the tags of the creator.
-/
namespace BootMedia

/-- Tags of the program that creates a disk; they are informational only. -/
structure CreatorTags where
  creatorApp : Block 4
  /-- The major version times 65536 plus the minor version. -/
  creatorVersion : UInt32
  creatorHostOs : Block 4
deriving DecidableEq

/-- The fields of a footer, in the order of the record. -/
@[ext] structure Footer where
  cookie : Block 8
  features : UInt32
  fileFormatVersion : UInt32
  dataOffset : UInt64
  /-- Seconds since 2000-01-01 00:00:00 UTC. -/
  timestamp : UInt32
  creatorApp : Block 4
  creatorVersion : UInt32
  creatorHostOs : Block 4
  originalSize : UInt64
  currentSize : UInt64
  geometry : Chs
  diskType : UInt32
  checksum : UInt32
  uniqueId : UniqueId
  savedState : UInt8
  reserved : Block 427
deriving DecidableEq

-- The disk types a footer can name; only fixed disks are supported.
namespace DiskType

def fixed : UInt32 := 2

def dynamic : UInt32 := 3

def differencing : UInt32 := 4

def name (t : UInt32) : String :=
  if t = fixed then "fixed"
  else if t = dynamic then "dynamic"
  else if t = differencing then "differencing"
  else "unknown"

end DiskType

namespace Footer

def size : Nat := 512

def magicCookie : Block 8 := ⟨[0x63, 0x6F, 0x6E, 0x65, 0x63, 0x74, 0x69, 0x78], rfl⟩

def reservedFeatures : UInt32 := 2

def version1 : UInt32 := 0x00010000

/-- The data offset of a fixed disk, which has no further header. -/
def noDataOffset : UInt64 := 0xFFFFFFFFFFFFFFFF

def windowsHost : Block 4 := ⟨[0x57, 0x69, 0x32, 0x6B], rfl⟩

def defaultTags : CreatorTags :=
  ⟨⟨[0x76, 0x68, 0x64, 0x72], rfl⟩, 1, windowsHost⟩

/-- 2000-01-01 00:00:00 UTC as seconds since 1970. -/
def epoch : UInt64 := 946684800

/-- A time in seconds since 1970 as a footer states it, in 32 bits. -/
def timestampAt (unixTime : UInt64) : UInt32 := (unixTime - epoch).toUInt32

def encode (f : Footer) : Record :=
  ⟨f.cookie.bytes ++ BigEndian.encode 4 f.features.toNat ++
    BigEndian.encode 4 f.fileFormatVersion.toNat ++ BigEndian.encode 8 f.dataOffset.toNat ++
    BigEndian.encode 4 f.timestamp.toNat ++ f.creatorApp.bytes ++
    BigEndian.encode 4 f.creatorVersion.toNat ++ f.creatorHostOs.bytes ++
    BigEndian.encode 8 f.originalSize.toNat ++ BigEndian.encode 8 f.currentSize.toNat ++
    f.geometry.pack.bytes ++ BigEndian.encode 4 f.diskType.toNat ++
    BigEndian.encode 4 f.checksum.toNat ++ f.uniqueId.bytes ++ [f.savedState] ++
    f.reserved.bytes, by simp [Block.length_eq]⟩

def number (r : Record) (start width : Nat) (h : start + width ≤ 512) : Nat :=
  BigEndian.decode (r.slice start width h).bytes

def decode (r : Record) : Footer where
  cookie := r.slice 0 8 (by decide)
  features := UInt32.ofNat (number r 8 4 (by decide))
  fileFormatVersion := UInt32.ofNat (number r 12 4 (by decide))
  dataOffset := UInt64.ofNat (number r 16 8 (by decide))
  timestamp := UInt32.ofNat (number r 24 4 (by decide))
  creatorApp := r.slice 28 4 (by decide)
  creatorVersion := UInt32.ofNat (number r 32 4 (by decide))
  creatorHostOs := r.slice 36 4 (by decide)
  originalSize := UInt64.ofNat (number r 40 8 (by decide))
  currentSize := UInt64.ofNat (number r 48 8 (by decide))
  geometry := Chs.unpack (r.slice 56 4 (by decide))
  diskType := UInt32.ofNat (number r 60 4 (by decide))
  checksum := UInt32.ofNat (number r 64 4 (by decide))
  uniqueId := r.slice 68 16 (by decide)
  savedState := r.byte 84 (by decide)
  reserved := r.slice 85 427 (by decide)

/-- The footer of a fixed disk with `size` bytes of payload; without an identity the field is
zero. The checksum is the one of the finished record. -/
def fixed (size : UInt64) (timestamp : UInt32) (uniqueId : Option UniqueId)
    (tags : CreatorTags) : Footer :=
  let draft : Footer :=
    { cookie := magicCookie
      features := reservedFeatures
      fileFormatVersion := version1
      dataOffset := noDataOffset
      timestamp := timestamp
      creatorApp := tags.creatorApp
      creatorVersion := tags.creatorVersion
      creatorHostOs := tags.creatorHostOs
      originalSize := size
      currentSize := size
      geometry := Chs.ofSize size
      diskType := DiskType.fixed
      checksum := 0
      uniqueId := uniqueId.getD UniqueId.nil
      savedState := 0
      reserved := Block.zero 427 }
  { draft with checksum := Checksum.ofRecord draft.encode }

def hasCookie (f : Footer) : Bool := f.cookie == magicCookie

def isSupported (f : Footer) : Bool :=
  f.fileFormatVersion == version1 && f.diskType == DiskType.fixed

def expectedChecksum (f : Footer) : UInt32 := Checksum.ofRecord f.encode

def mismatch? (f : Footer) : Option ChecksumMismatch :=
  if f.checksum = f.expectedChecksum then none else some ⟨f.checksum, f.expectedChecksum⟩

def hexList (b : Bytes) : String :=
  "[" ++ ", ".intercalate (b.map fun x => Numeral.hexUpper x.toNat) ++ "]"

def text (f : Footer) : String :=
  let hex (n : Nat) : String := Numeral.hexUpper n
  "VhdFooter \x7b cookie: " ++ hexList f.cookie.bytes ++
    ", features: " ++ hex f.features.toNat ++
    ", file_format_version: " ++ hex f.fileFormatVersion.toNat ++
    ", data_offset: " ++ hex f.dataOffset.toNat ++
    ", timestamp: " ++ hex f.timestamp.toNat ++
    ", creator_app: " ++ hexList f.creatorApp.bytes ++
    ", creator_version: " ++ hex f.creatorVersion.toNat ++
    ", creator_host_os: " ++ hexList f.creatorHostOs.bytes ++
    ", original_size: " ++ hex f.originalSize.toNat ++
    ", current_size: " ++ hex f.currentSize.toNat ++
    ", disk_geometry: " ++ f.geometry.packedText hex ++
    ", disk_type: " ++ hex f.diskType.toNat ++
    ", checksum: " ++ hex f.checksum.toNat ++
    ", unique_id: " ++ UniqueId.text f.uniqueId ++
    ", saved_state: " ++ hex f.savedState.toNat ++
    ", reserved: " ++ hexList f.reserved.bytes ++ " \x7d"

end Footer

end BootMedia
