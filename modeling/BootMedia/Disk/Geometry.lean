import BootMedia.Bytes.Endian

/-!
Cylinders, heads and sectors reported for a disk of a given size. A size picks the first of three
track lengths that can address it in fewer than 1024 cylinders; very large disks use the longest.
-/
namespace BootMedia

def sectorSize : UInt64 := 512

@[ext] structure Chs where
  cylinders : UInt16
  heads : UInt8
  sectorsPerTrack : UInt8
deriving DecidableEq

/-- A way to divide a disk into tracks. `tracks` counts the whole tracks of the disk, those of all
heads together. -/
structure Layout where
  sectorsPerTrack : UInt32
  heads : UInt32
  tracks : UInt32

namespace Layout

def sixteenHeads (sectorsPerTrack total : UInt32) : Layout :=
  ⟨sectorsPerTrack, 16, total / sectorsPerTrack⟩

/-- Tracks of 17 sectors, with the fewest heads, at least 4, that need no more than 1024
cylinders. -/
def shortTracks (total : UInt32) : Layout :=
  let tracks := total / 17
  let needed := tracks / 1024 + if tracks % 1024 = 0 then 0 else 1
  ⟨17, max needed 4, tracks⟩

def isAddressable (l : Layout) : Bool := l.heads ≤ 16 && l.tracks < l.heads * 1024

def toChs (l : Layout) : Chs :=
  ⟨(l.tracks / l.heads).toUInt16, l.heads.toUInt8, l.sectorsPerTrack.toUInt8⟩

end Layout

namespace Chs

/-- The sectors of the largest disk with a geometry: 65535 cylinders, 16 heads, 255 sectors per
track. -/
def capacity : UInt64 := 65535 * 16 * 255

def largeFrom : UInt64 := 65535 * 16 * 63

/-- The layout of a disk: the longest tracks if it is large, otherwise the first of the shorter
ones that is addressable, and the third where neither is. -/
def layout (total : UInt32) : Layout :=
  if largeFrom ≤ total.toUInt64 then Layout.sixteenHeads 255 total
  else
    ([Layout.shortTracks total, Layout.sixteenHeads 31 total].find? Layout.isAddressable).getD
      (Layout.sixteenHeads 63 total)

/-- The geometry of a disk with a number of sectors; those beyond the capacity are not counted. -/
def ofSectors (sectors : UInt64) : Chs := (layout (min sectors capacity).toUInt32).toChs

/-- The geometry of a disk of `size` bytes; a part of a sector is not counted. -/
def ofSize (size : UInt64) : Chs := ofSectors (size / sectorSize)

def totalSectors (g : Chs) : UInt64 :=
  g.cylinders.toUInt64 * g.heads.toUInt64 * g.sectorsPerTrack.toUInt64

/-- On disk: the cylinders as a big-endian word, then heads, then sectors per track. -/
def pack (g : Chs) : Block 4 :=
  ⟨BigEndian.encode 2 g.cylinders.toNat ++ [g.heads, g.sectorsPerTrack], by simp⟩

def unpack (b : Block 4) : Chs :=
  ⟨UInt16.ofNat (BigEndian.decode (b.slice 0 2 (by decide)).bytes), b.byte 2 (by decide),
    b.byte 3 (by decide)⟩

def fieldText (number : Nat → String) (g : Chs) : String :=
  "\x7b cylinders: " ++ number g.cylinders.toNat ++ ", heads: " ++ number g.heads.toNat ++
    ", sectors_per_track: " ++ number g.sectorsPerTrack.toNat ++ " \x7d"

def text (g : Chs) : String := "Chs " ++ g.fieldText toString

def packedText (number : Nat → String) (g : Chs) : String := "DiskGeometry " ++ g.fieldText number

end Chs

end BootMedia
