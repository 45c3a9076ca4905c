import BootMedia.Console.Line
import BootMedia.Image.Report

/-!
The command that shows what is known about an image. The image is opened once to be classified,
and once more to show its footer if it has one.
-/
namespace BootMedia.Command

def footerLines : Detection → List Line
  | .fixed vhd =>
    [.answer ("VHD footer: " ++ vhd.footer.text),
     .answer ("Disk type: " ++ DiskType.name vhd.footer.diskType),
     .answer ("Geometry: " ++ vhd.footer.geometry.text)]
  | _ => []

/-- Looks for the footer of an image again, to show it. -/
def showFooter (opened : Except Fault OpenImage) : List Line × Except (List String) Unit :=
  match opened with
  | .error cause => ([], .error [cause.text])
  | .ok image =>
    match image.size with
    | .error cause => ([], .error [cause.text])
    | .ok size =>
      let run := image.findFooter size
      match run.outcome with
      | .error reason => ([], .error reason.chain)
      | .ok found => (run.notices.map Line.notice ++ footerLines found, .ok ())

def compressionLines (c : Compression) : List Line :=
  match c.suffix? with
  | some suffix =>
    [.answer ("Compressed image (" ++ String.ofList suffix ++ "), footer not checked")]
  | none => []

def conclude (path : PathText) (report : ImageReport) (lines : List Line) : CommandRun :=
  if report.bootable then .success lines
  else .failure lines [path.text ++ " is not a bootable image"]

/-- Shows the report on an image, and its footer if it is a virtual hard disk. `first` and
`second` are what opening the image brings at the two times. -/
def inspect (analyzer : Analyzer) (path : PathText) (first second : Except Fault OpenImage) :
    CommandRun :=
  match classify path first analyzer with
  | .error _ => .breakdown
  | .ok ⟨report, notices, _⟩ =>
    let lines := notices.map Line.notice ++ [.answer report.text] ++
      compressionLines report.compression
    if report.isVhd then
      let (more, outcome) := showFooter second
      match outcome with
      | .error chain => .failure (lines ++ more) chain
      | .ok () => conclude path report (lines ++ more)
    else conclude path report lines

end BootMedia.Command
