import BootMedia.Fault
import BootMedia.Host.WaitStatus
import BootMedia.Path

/-!
Why a file could not be taken out of a WIM image: by the request itself, by one extraction
method, or by all of them together.
-/
namespace BootMedia

inductive ExtractError
  | invalidRequest (what : String)
  | unavailable (method : String)
  | host (call : String) (cause : Fault)
  | launch (program : PathText) (cause : Fault)
  | archiverExit (program : PathText) (status : WaitStatus) (complaint : String)
  | staleOutput (path : PathText) (cause : Fault)
  | missingOutput (path : PathText)
  | rename (source target : PathText) (cause : Fault)
  | noBackend
  | allBackendsFailed
deriving DecidableEq

namespace ExtractError

def message : ExtractError → String
  | invalidRequest what => "Invalid extraction request: " ++ what
  | unavailable method => method ++ " is not available on this host"
  | host call cause => call ++ " failed: " ++ cause.text
  | launch program cause => "Could not launch " ++ program.text ++ ": " ++ cause.text
  | archiverExit program status complaint =>
    program.text ++ " exited with " ++ status.text ++ ": " ++ complaint
  | staleOutput path cause =>
    "Could not remove previous output " ++ path.text ++ ": " ++ cause.text
  | missingOutput path => "Archiver did not extract " ++ path.text
  | rename source target cause =>
    "Could not rename " ++ source.text ++ " to " ++ target.text ++ ": " ++ cause.text
  | noBackend => "No WIM extraction method is available"
  | allBackendsFailed => "Every WIM extraction method failed"

def cause? : ExtractError → Option Fault
  | host _ cause => some cause
  | launch _ cause => some cause
  | staleOutput _ cause => some cause
  | rename _ _ cause => some cause
  | _ => none

end ExtractError

end BootMedia
