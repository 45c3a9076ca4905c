import BootMedia.Command.Append
import BootMedia.Command.Extract
import BootMedia.Command.Inspect
import BootMedia.Command.Job
import BootMedia.Image.Opening

/-!
A whole command: its arguments choose the job, and the job is done on a host.
-/
namespace BootMedia.Command

/-- What a command finds outside its arguments and its host. -/
structure Surroundings where
  /-- The name the program was called by. -/
  program : String
  settings : ExtractSettings
  /-- The moment and the random bytes for a footer. -/
  stamp : Stamp

def perform (s : Surroundings) (h : Host) (job : Job)
    (analyzer : Analyzer := Analyzer.partitionTable) : CommandRun × Host :=
  match job with
  | .append image =>
    let (run, contents) := append image (h.openToAppend image) s.stamp
    (run, h.withContents image contents)
  | .inspect image => (inspect analyzer image (h.openImage image) (h.openImage image), h)
  | .extract wim index src dst => extract s.settings h wim index src dst

def run (s : Surroundings) (h : Host) (arguments : List (List Char))
    (analyzer : Analyzer := Analyzer.partitionTable) : CommandRun × Host :=
  match Job.ofArguments arguments with
  | some job => perform s h job analyzer
  | none => (⟨1, [], Job.usageText s.program⟩, h)

end BootMedia.Command
