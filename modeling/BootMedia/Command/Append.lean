import BootMedia.Console.Line
import BootMedia.Vhd.Append

/-!
The command that appends a footer to an image and shows it.
-/
namespace BootMedia.Command

/-- Appends a footer with the usual tags. The second part is what the file holds afterwards. -/
def append (path : PathText) (opened : Except Fault Bytes) (stamp : Stamp) :
    CommandRun × Option Bytes :=
  let (run, contents) := appendFooter path opened stamp Footer.defaultTags
  let lines := run.notices.map Line.notice
  match run.outcome with
  | .error reason => (.failure lines reason.chain, contents)
  | .ok footer => (.success (lines ++ [.answer ("VHD footer: " ++ footer.text)]), contents)

end BootMedia.Command
