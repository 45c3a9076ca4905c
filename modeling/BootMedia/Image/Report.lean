import BootMedia.Activity
import BootMedia.Image.Analyzer
import BootMedia.Image.Compression
import BootMedia.Vhd.Detection

/-!
What is known about a disk image: its compression, whether it is bootable, whether it is a virtual
hard disk, and how many bytes of disk data it holds. Classifying never fails; what goes wrong is
reported as a diagnostic.
-/
namespace BootMedia

@[ext] structure ImageReport where
  compression : Compression
  bootable : Bool
  isVhd : Bool
  /-- Bytes of disk data, without a footer. -/
  projectedSize : UInt64
deriving DecidableEq

namespace ImageReport

def blank : ImageReport := ⟨.none, false, false, 0⟩

/-- The smallest image that is searched for a footer: one sector and the footer. -/
def smallestWithFooter : UInt64 := 1024

def flagText (b : Bool) : String := if b then "true" else "false"

def fieldTexts (r : ImageReport) : List (String × String) :=
  [("compression_type", r.compression.name), ("is_bootable_img", flagText r.bootable),
   ("is_vhd", flagText r.isVhd), ("projected_size", toString r.projectedSize.toNat)]

def text (r : ImageReport) : String :=
  "ImageReport \x7b\n" ++
    String.join (r.fieldTexts.map fun f => "    " ++ f.1 ++ ": " ++ f.2 ++ ",\n") ++ "\x7d"

def lineText (r : ImageReport) : String :=
  "ImageReport \x7b " ++ ", ".intercalate (r.fieldTexts.map fun f => f.1 ++ ": " ++ f.2) ++ " \x7d"

def withDetection (r : ImageReport) : Detection → ImageReport
  | .notVhd => r
  | .unsupported _ _ payload => { r with bootable := false, projectedSize := payload }
  | .fixed vhd => { r with isVhd := true, projectedSize := vhd.payloadSize }

end ImageReport

/-- Looks for a footer in an image, taking it to have `size` bytes. -/
def OpenImage.findFooter (image : OpenImage) (size : UInt64) : DetectRun :=
  let fault := image.faultAt (size - 512) Footer.size
  detect (Source.ofBytes image.contents) (fault.map Turn.fault).toList size

namespace OpenImage

def footerNotices (run : DetectRun) : List Notice :=
  match run.outcome with
  | .ok (.unsupported version diskType _) => [.unsupportedVhd version diskType]
  | .ok _ => run.notices
  | .error reason => [.footerUnread reason]

def searchFooter (image : OpenImage) (size : UInt64) (report : ImageReport) :
    ImageReport × List Notice :=
  if size < ImageReport.smallestWithFooter then (report, [])
  else
    let run := image.findFooter size
    match run.outcome with
    | .ok found => (report.withDetection found, footerNotices run)
    | .error _ => (report, footerNotices run)

/-- The report on an opened image, given its compression and whether it is taken to be bootable,
with the diagnostics that come up. -/
def describe (image : OpenImage) (compression : Compression) (bootable : Bool) :
    ImageReport × List Notice :=
  match image.size with
  | .error cause => (⟨compression, false, false, 0⟩, [.sizeUnknown cause])
  | .ok size =>
    let report : ImageReport := ⟨compression, bootable, false, size⟩
    if compression.isCompressed then (report, []) else image.searchFooter size report

end OpenImage

/-- Works out what is known about the image at a path, given the opened image or why it could not
be opened. Only an uncompressed image is shown to the analyzer; only its breakdown is an error. -/
def examine {σ : Type} (path : PathText) (opened : Except Fault OpenImage)
    (consult : OpenImage → Activity σ Verdict) : Activity σ (Except TableCrash ImageReport) := do
  match opened with
  | .error cause =>
    Activity.note (.imageNotOpened path cause)
    return .ok .blank
  | .ok image =>
    let compression := Compression.sniff path
    let verdict ← if compression.isCompressed then pure (.bootable true []) else consult image
    match verdict with
    | .crash cause => return .error cause
    | .bootable yes said =>
      let (report, more) := image.describe compression yes
      Activity.noteAll (said ++ more)
      return .ok report

/-- A report, the diagnostics that led to it, and the images that the analyzer was shown. -/
structure Classification where
  report : ImageReport
  notices : List Notice
  shown : List OpenImage

def Classification.consultations (k : Classification) : Nat := k.shown.length

/-- An analyzer that writes down each image it is shown. -/
def Analyzer.watched (analyzer : Analyzer) (image : OpenImage) :
    Activity (List OpenImage) Verdict :=
  Activity.silent fun shown => (analyzer image, shown ++ [image])

/-- What examining an image comes to when the analyzer is watched. -/
def classify (path : PathText) (opened : Except Fault OpenImage) (analyzer : Analyzer) :
    Except TableCrash Classification :=
  let reply := (examine path opened analyzer.watched).run []
  reply.value.map fun report => ⟨report, reply.notices, reply.state⟩

end BootMedia
