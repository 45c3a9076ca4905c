import BootMedia.Fault
import BootMedia.Path

/-!
Why a footer could not be found or written, as a chain of texts from the outermost to the cause.
-/
namespace BootMedia

/-- Why the end of an image could not be searched for a footer. -/
inductive DetectError
  | tooSmall (size : UInt64)
  | unread (cause : Fault)
deriving DecidableEq

def DetectError.chain : DetectError → List String
  | tooSmall size =>
    ["Image is too small to hold a VHD footer (" ++ toString size.toNat ++ " bytes)"]
  | unread cause => ["Could not read VHD footer", cause.text]

inductive AppendError
  | notOpened (path : PathText) (cause : Fault)
  | noEnd (cause : Fault)
  | notWritten (cause : Fault)
deriving DecidableEq

def AppendError.chain : AppendError → List String
  | notOpened path cause => ["Could not open image '" ++ path.text ++ "'", cause.text]
  | noEnd cause => ["Could not seek to the end of the image", cause.text]
  | notWritten cause => ["Could not write VHD footer", cause.text]

end BootMedia
