import BootMedia.Notice
import BootMedia.Transfer.Reading

/-!
What the last 512 bytes of an image say about it. An image without the cookie is no virtual hard
disk; one of another version or type is unsupported; a fixed disk is usable even when its
checksum disagrees.
-/
namespace BootMedia

structure FixedDisk where
  footer : Footer
  /-- The file size minus the footer. -/
  payloadSize : UInt64
  /-- How the stored checksum disagrees, if it does. -/
  mismatch : Option ChecksumMismatch
deriving DecidableEq

inductive Detection
  | notVhd
  | unsupported (version diskType : UInt32) (payloadSize : UInt64)
  | fixed (vhd : FixedDisk)
deriving DecidableEq

namespace Detection

def isVhd : Detection → Bool
  | fixed _ => true
  | _ => false

def payloadSize? : Detection → Option UInt64
  | notVhd => none
  | unsupported _ _ size => some size
  | fixed vhd => some vhd.payloadSize

def ofFooter (f : Footer) (fileSize : UInt64) : Detection :=
  if !f.hasCookie then notVhd
  else if !f.isSupported then unsupported f.fileFormatVersion f.diskType (fileSize - 512)
  else fixed ⟨f, fileSize - 512, f.mismatch?⟩

def notices : Detection → List Notice
  | fixed vhd => (vhd.mismatch.map Notice.corrupted).toList ++ [Notice.fixedDisk]
  | _ => []

end Detection

structure DetectRun where
  outcome : Except DetectError Detection
  calls : List ReadCall

namespace DetectRun

def notices (r : DetectRun) : List Notice :=
  match r.outcome with
  | .ok d => d.notices
  | .error _ => []

end DetectRun

/-- Reads the footer at the end of an image of `fileSize` bytes, with a script for the first
reads. -/
def detect (source : Source) (turns : List Turn) (fileSize : UInt64) : DetectRun :=
  if fileSize < 512 then ⟨.error (.tooSmall fileSize), []⟩
  else
    let run := source.readExact turns (fileSize - 512) Footer.size
    match run.outcome with
    | .error cause => ⟨.error (.unread cause), run.calls⟩
    | .ok bytes =>
      ⟨.ok (Detection.ofFooter (Footer.decode (Block.fit 512 bytes)) fileSize), run.calls⟩

end BootMedia
