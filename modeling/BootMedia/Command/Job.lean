import BootMedia.Path

/-!
The jobs of the command line, told apart by the first argument and the number of arguments.
-/
namespace BootMedia

inductive Job
  | append (image : PathText)
  | inspect (image : PathText)
  | extract (wim : PathText) (index src : List Char) (dst : PathText)
deriving DecidableEq

namespace Job

def ofArguments : List (List Char) → Option Job
  | [verb, image] =>
    if verb = "append".toList then some (append image)
    else if verb = "inspect".toList then some (inspect image)
    else none
  | [verb, wim, index, src, dst] =>
    if verb = "extract".toList then some (extract wim index src dst) else none
  | _ => none

def usageText (program : String) : String :=
  "Usage:\n" ++
    "  " ++ program ++ " append <image>\n" ++
    "  " ++ program ++ " inspect <image>\n" ++
    "  " ++ program ++ " extract <wim> <index> <src> <dst>\n"

end Job

end BootMedia
