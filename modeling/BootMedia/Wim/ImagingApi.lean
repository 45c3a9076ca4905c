import BootMedia.Wim.Backend

/-!
Extraction by an imaging interface of the host: the WIM file is opened, a temporary directory is
set, an image is loaded from it and the file is extracted. Whatever was opened is closed again,
the image before the WIM file, and a failing close is only reported.
-/
namespace BootMedia

structure WimHandle where
  number : UInt64
deriving DecidableEq

/-- The calls of an imaging interface over a state `σ`. -/
structure ImagingApi (σ : Type) where
  isAvailable : σ → Bool × σ
  openWim : PathText → σ → Except Fault WimHandle × σ
  useTempDir : WimHandle → PathText → σ → Except Fault Unit × σ
  loadImage : WimHandle → UInt32 → σ → Except Fault WimHandle × σ
  extractFile : WimHandle → List Char → PathText → σ → Except Fault Unit × σ
  closeHandle : WimHandle → σ → Except Fault Unit × σ

namespace ImagingApi

variable {σ : Type}

def name : String := "wimgapi.dll"

def defaultTempDir : PathText := "/tmp".toList

def unsupported : Fault := .told .unsupported "wimgapi.dll is only available on Windows"

/-- The interface of a host that has none. -/
def missing : ImagingApi σ where
  isAvailable := (false, ·)
  openWim _ := (.error unsupported, ·)
  useTempDir _ _ := (.error unsupported, ·)
  loadImage _ _ := (.error unsupported, ·)
  extractFile _ _ _ := (.error unsupported, ·)
  closeHandle _ := (.error unsupported, ·)

def close (api : ImagingApi σ) (handle : WimHandle) (closing : Notice) (label : String) :
    Activity σ Unit := do
  Activity.note closing
  match ← Activity.silent (api.closeHandle handle) with
  | .ok () => return ()
  | .error cause => Activity.note (.notClosed label cause)

def extractFrom (api : ImagingApi σ) (r : Request) (image : WimHandle) :
    Activity σ (Except ExtractError Unit) := do
  Activity.note (.extracting .imagingApi r.dst r.src)
  match ← Activity.silent (api.extractFile image r.src r.dst) with
  | .error cause => return .error (.host "WIMExtractImagePath" cause)
  | .ok () => return .ok ()

def withImage (api : ImagingApi σ) (r : Request) (wim : WimHandle) :
    Activity σ (Except ExtractError Unit) := do
  match ← Activity.silent (api.loadImage wim r.index) with
  | .error cause => return .error (.host "WIMLoadImage" cause)
  | .ok image => do
    let outcome ← extractFrom api r image
    api.close image (.closingImage r.image r.index) (Notice.imageLabel r.image r.index)
    return outcome

/-- Sets the temporary directory of an open WIM file and goes on to its image. -/
def insideWim (api : ImagingApi σ) (tempDir : PathText) (r : Request) (wim : WimHandle) :
    Activity σ (Except ExtractError Unit) := do
  match ← Activity.silent (api.useTempDir wim tempDir) with
  | .error cause => return .error (.host "WIMSetTemporaryPath" cause)
  | .ok () => withImage api r wim

def withWim (api : ImagingApi σ) (tempDir : PathText) (r : Request) :
    Activity σ (Except ExtractError Unit) := do
  match ← Activity.silent (api.openWim r.image) with
  | .error cause => return .error (.host "WIMCreateFile" cause)
  | .ok wim => do
    let outcome ← insideWim api tempDir r wim
    api.close wim (.closingWim r.image) r.image.text
    return outcome

def extract (api : ImagingApi σ) (tempDir : PathText) (r : Request) :
    Activity σ (Except ExtractError Unit) := do
  if ← Activity.silent api.isAvailable then
    Activity.note (.opening .imagingApi r.image r.index)
    withWim api tempDir r
  else return .error (.unavailable name)

def backend (api : ImagingApi σ) (tempDir : PathText) : Backend σ where
  name := name
  probe := Activity.silent api.isAvailable
  extract := extract api tempDir

end ImagingApi

end BootMedia
