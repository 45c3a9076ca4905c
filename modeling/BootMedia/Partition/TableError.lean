import BootMedia.Fault
import BootMedia.Text.Numeral

/-!
Why an image has no usable partition table, and how the reader of the table can break down.
-/
namespace BootMedia

/-- A reason why no partition table can be used. -/
inductive TableError
  | noSignature
  | unreadable (cause : Fault)
  | imageTooShort
  | tableCutShort
  | badStatus (slot : Nat) (status : UInt8)
  | badGptSignature
  | unsupportedRevision
  | headerTooShort
  | headerChecksum
  | reservedField
  | currentLba
  | usableBackwards
  | beyondAddressSpace
  | startingLba
  | entryCount
  | entrySizeLarge
  | entrySizeSmall
  | firstUsableLow
  | headerTail
  | tableChecksum
  | entryOutOfRange
  | entryName (entry : Nat)
deriving DecidableEq

namespace TableError

def detail : TableError → String
  | noSignature => ""
  | unreadable cause => cause.text
  | imageTooShort => "failed to fill whole buffer"
  | tableCutShort => "failed to fill whole buffer"
  | badStatus slot status =>
    "invalid status code in partition " ++ toString slot ++ ": " ++ Numeral.hexLower status.toNat
  | badGptSignature => "bad EFI signature"
  | unsupportedRevision => "unsupported revision"
  | headerTooShort => "header too short"
  | headerChecksum => "header checksum mismatch"
  | reservedField => "unsupported data in reserved field 0x0c"
  | currentLba => "current lba must be '1' for first header"
  | usableBackwards => "usable lbas are backwards?!"
  | beyondAddressSpace => "everything must be below the 2^64 point (~ eighteen million TB)"
  | startingLba => "starting lba must be '2' for first header"
  | entryCount => "entry count is implausible"
  | entrySizeLarge => "entry size is implausibly large"
  | entrySizeSmall => "entry size is implausibly small"
  | firstUsableLow => "first usable lba is too low"
  | headerTail => "reserved header tail is not all empty"
  | tableChecksum => "table crc invalid"
  | entryOutOfRange => "partition entry is out of range"
  | entryName entry => "partition " ++ toString entry ++ " has an invalid name"

def text : TableError → String
  | noSignature => "Kind(NotFound)"
  | unreadable (.system number) =>
    "Os \x7b code: " ++ toString number ++ ", kind: " ++ (Fault.systemKind number).name ++
      ", message: \"" ++ Fault.systemText number ++ "\" \x7d"
  | unreadable cause =>
    "Custom \x7b kind: " ++ cause.kind.name ++ ", error: \"" ++ cause.text ++ "\" \x7d"
  | imageTooShort =>
    "Custom \x7b kind: UnexpectedEof, error: \"" ++ imageTooShort.detail ++ "\" \x7d"
  | tableCutShort =>
    "Error \x7b kind: UnexpectedEof, message: \"" ++ tableCutShort.detail ++ "\" \x7d"
  -- The text of an invalid name ends here, because what follows hangs on the name.
  | entryName entry => "Custom \x7b kind: InvalidData, error: \"" ++ (entryName entry).detail
  | e => "Custom \x7b kind: InvalidData, error: \"" ++ e.detail ++ "\" \x7d"

end TableError

/-- How the reader of a table breaks down instead of answering. -/
inductive TableCrash
  | emptySector
  | headerBeyondSector
deriving DecidableEq

inductive TableAnswer
  | partitions (count : Nat)
  | unusable (reason : TableError)
  | crash (cause : TableCrash)
deriving DecidableEq

end BootMedia
