import BootMedia.Notice
import BootMedia.Partition.Table

/-!
Analyzers decide whether the boot record of an uncompressed image makes it bootable. The one that
is used by default counts partitions.
-/
namespace BootMedia

/-- An image that has been opened: its bytes, its size as the host states it, and the fault that
reading from it meets, if any. -/
structure OpenImage where
  contents : Bytes
  size : Except Fault UInt64
  readFault : Option Fault

namespace OpenImage

def ofFile (contents : Bytes) : OpenImage :=
  ⟨contents, .ok (UInt64.ofNat contents.length), none⟩

/-- A directory, which opens and has a size, but cannot be read. -/
def ofDirectory (size : UInt64) : OpenImage := ⟨[], .ok size, some Fault.isDirectory⟩

/-- No file has a byte at this offset or behind it, and the host refuses to look for one. -/
def offsetLimit : Nat := 0x8000000000000000

/-- The fault that reading `count` bytes at an offset meets, whatever the image holds. -/
def faultAt (image : OpenImage) (offset : UInt64) (count : Nat) : Option Fault :=
  if offsetLimit ≤ offset.toNat + count then some Fault.invalidArgument else image.readFault

end OpenImage

/-- What an analyzer makes of an image, with its diagnostics; it may also break down. -/
inductive Verdict
  | bootable (yes : Bool) (notices : List Notice)
  | crash (cause : TableCrash)
deriving DecidableEq

abbrev Analyzer := OpenImage → Verdict

namespace Analyzer

/-- The verdict that a partition table leads to: bootable if it lists any partition. -/
def ofTable : TableAnswer → Verdict
  | .partitions count => .bootable (count != 0) [.partitions count]
  | .unusable reason => .bootable false [.noPartitionTable reason]
  | .crash cause => .crash cause

def partitionTable : Analyzer := fun image =>
  match image.readFault with
  | some cause => ofTable (.unusable (.unreadable cause))
  | none => ofTable (PartitionTable.read image.contents)

def always (yes : Bool) : Analyzer := fun _ => .bootable yes []

end Analyzer

end BootMedia
