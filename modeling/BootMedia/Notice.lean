import BootMedia.Disk.Geometry
import BootMedia.Partition.TableError
import BootMedia.Text.Quoted
import BootMedia.Vhd.Checksum
import BootMedia.Vhd.Footer
import BootMedia.Vhd.FooterError
import BootMedia.Wim.ExtractError

/-!
The diagnostics that activities leave behind. A notice says what happened; its level, its text
and the scope it belongs to follow from that.
-/
namespace BootMedia

inductive Level
  | error
  | warn
  | info
  | debug
deriving DecidableEq

/-- Which extraction method opened an image. -/
inductive Method
  | archiver
  | imagingApi
deriving DecidableEq

inductive Notice
  -- footers
  | missingId
  | appended (size : UInt64) (geometry : Chs) (checksum : UInt32)
  | corrupted (mismatch : ChecksumMismatch)
  | fixedDisk
  -- images
  | imageNotOpened (path : PathText) (cause : Fault)
  | sizeUnknown (cause : Fault)
  | unsupportedVhd (version diskType : UInt32)
  | footerUnread (reason : DetectError)
  | partitions (count : Nat)
  | noPartitionTable (reason : TableError)
  -- extraction
  | methods (available : List String)
  | attemptFailed (method : String) (reason : ExtractError)
  | opening (method : Method) (image : PathText) (index : UInt32)
  | extracting (method : Method) (dst : PathText) (src : List Char)
  | archiverMissing (path : PathText)
  | archiverFound (path : Option PathText)
  | removedPrevious (path : PathText)
  | closingWim (image : PathText)
  | closingImage (image : PathText) (index : UInt32)
  | notClosed (label : String) (cause : Fault)
  -- the command line
  | archiverHint
  | extractionComplete
deriving DecidableEq

namespace Notice

def level : Notice → Level
  | imageNotOpened .. | sizeUnknown _ | footerUnread _ => .error
  | missingId | corrupted _ | unsupportedVhd .. | attemptFailed .. | archiverMissing _
  | notClosed .. => .warn
  | fixedDisk | methods _ | opening .. | extracting .. | closingWim _ | archiverHint
  | extractionComplete => .info
  | appended .. | partitions _ | noPartitionTable _ | archiverFound _ | removedPrevious _
  | closingImage .. => .debug

/-- An image inside a WIM file, as the diagnostics name it. -/
def imageLabel (image : PathText) (index : UInt32) : String :=
  image.text ++ ":[" ++ toString index.toNat ++ "]"

def methodMark : Method → String
  | .archiver => " (7-Zip)"
  | .imagingApi => " (API)"

def methodList : List String → String
  | [] => "NONE"
  | names => ", ".intercalate names

def text : Notice → String
  | missingId => "Could not set VHD unique id"
  | appended .. => "Appended VHD footer"
  | corrupted m => "VHD footer seems corrupted (" ++ m.text ++ ")"
  | fixedDisk => "Image is a Fixed Hard Disk VHD file"
  | imageNotOpened path cause => "Could not open image '" ++ path.text ++ "': " ++ cause.text
  | sizeUnknown cause => "Could not get image size: " ++ cause.text
  | unsupportedVhd version diskType =>
    "Unsupported type of VHD image (version " ++ Numeral.wordHex version.toNat ++ ", " ++
      DiskType.name diskType ++ " disk)"
  | footerUnread reason => ": ".intercalate reason.chain
  | partitions count => "Image has " ++ toString count ++ " partition(s)"
  | noPartitionTable reason => "Image has no usable partition table: " ++ reason.text
  | methods available => "WIM extraction method(s) supported: " ++ methodList available
  | attemptFailed method reason => method ++ " extraction failed: " ++ reason.message
  | opening method image index => "Opening: " ++ imageLabel image index ++ methodMark method
  | extracting _ dst src =>
    "Extracting: " ++ dst.text ++ " (From " ++ String.ofList src ++ ")"
  | archiverMissing path => "Configured archiver " ++ path.text ++ " does not exist"
  | archiverFound path => "7-Zip executable: " ++ Quoted.quoteOption path
  | removedPrevious path => "Removed previous " ++ path.text
  | closingWim image => "Closing: " ++ image.text
  | closingImage image index => "Closing: " ++ imageLabel image index
  | notClosed label cause => "Could not close " ++ label ++ ": " ++ cause.text
  | archiverHint => "7-Zip not found, set WIMEXTRACT_7Z to use a specific executable"
  | extractionComplete => "Extraction complete"

/-- Values that a notice carries beside its text, by name. -/
def details : Notice → List (String × String)
  | appended size geometry checksum =>
    [("size", toString size.toNat), ("geometry", geometry.text),
     ("checksum", Numeral.padLeft '0' 8 (Numeral.hexUpper checksum.toNat))]
  | _ => []

/-- The part of the program a notice belongs to, by which diagnostics can be selected. -/
def scope : Notice → String
  | missingId | appended .. | corrupted _ | fixedDisk => "vhd::footer"
  | imageNotOpened .. | sizeUnknown _ | unsupportedVhd .. | footerUnread _ | partitions _
  | noPartitionTable _ => "vhd::classify"
  | methods _ | attemptFailed .. => "wimextract"
  | opening .archiver .. | extracting .archiver .. | archiverMissing _ | archiverFound _
  | removedPrevious _ => "wimextract::sevenzip"
  | opening .imagingApi .. | extracting .imagingApi .. | closingWim _ | closingImage ..
  | notClosed .. => "wimextract::wimgapi"
  | archiverHint | extractionComplete => "vhd"

end Notice

end BootMedia
