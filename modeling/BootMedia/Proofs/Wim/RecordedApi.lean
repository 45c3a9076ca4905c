import BootMedia.Wim.ImagingApi
import BootMedia.Proofs.Wim.Watched

/-!
Recording the calls of an imaging interface, each with its arguments and its answer. Main
statement: apart from the record, an extraction through the recorded interface, and a sequence of
them, is the one through the interface itself.
-/
namespace BootMedia

/-- A call of an imaging interface and how it was answered. -/
inductive ApiCall
  | isAvailable (answer : Bool)
  | openWim (image : PathText) (answer : Except Fault WimHandle)
  | useTempDir (wim : WimHandle) (dir : PathText) (answer : Except Fault Unit)
  | loadImage (wim : WimHandle) (index : UInt32) (answer : Except Fault WimHandle)
  | extractFile (image : WimHandle) (src : List Char) (dst : PathText) (answer : Except Fault Unit)
  | closeHandle (handle : WimHandle) (answer : Except Fault Unit)
deriving DecidableEq

/-- A world, and the calls of the interface that were made in it, in order. -/
structure Recorded (σ : Type) where
  world : σ
  calls : List ApiCall

def Recorded.call {σ α : Type} (w : Recorded σ) (f : σ → α × σ) (entry : α → ApiCall) :
    α × Recorded σ :=
  ((f w.world).1, ⟨(f w.world).2, w.calls ++ [entry (f w.world).1]⟩)

namespace ImagingApi

open Activity

variable {σ : Type}

def recorded (api : ImagingApi σ) : ImagingApi (Recorded σ) where
  isAvailable w := w.call api.isAvailable .isAvailable
  openWim image w := w.call (api.openWim image) (.openWim image)
  useTempDir wim dir w := w.call (api.useTempDir wim dir) (.useTempDir wim dir)
  loadImage wim index w := w.call (api.loadImage wim index) (.loadImage wim index)
  extractFile image src dst w := w.call (api.extractFile image src dst) (.extractFile image src dst)
  closeHandle handle w := w.call (api.closeHandle handle) (.closeHandle handle)

def extractAll (api : ImagingApi σ) (tempDir : PathText) :
    List Request → Activity σ (List (Except ExtractError Unit))
  | [] => return []
  | r :: rest => do
    let answer ← extract api tempDir r
    let others ← extractAll api tempDir rest
    return answer :: others

theorem follows_call {α : Type} (f : σ → α × σ) (entry : α → ApiCall) :
    Follows Recorded.world (silent fun w => w.call f entry) (silent f) := fun _ => rfl

theorem follows_close (api : ImagingApi σ) (handle : WimHandle) (closing : Notice)
    (label : String) :
    Follows Recorded.world (api.recorded.close handle closing label)
      (api.close handle closing label) := by
  refine .bind (.note _) fun _ => .bind (follows_call _ _) fun answer => ?_
  cases answer with
  | ok _ => exact .pure ()
  | error cause => exact .note _

theorem follows_extractFrom (api : ImagingApi σ) (r : Request) (image : WimHandle) :
    Follows Recorded.world (extractFrom api.recorded r image) (extractFrom api r image) := by
  refine .bind (.note _) fun _ => .bind (follows_call _ _) fun answer => ?_
  cases answer with
  | ok _ => exact .pure _
  | error cause => exact .pure _

theorem follows_withImage (api : ImagingApi σ) (r : Request) (wim : WimHandle) :
    Follows Recorded.world (withImage api.recorded r wim) (withImage api r wim) := by
  refine .bind (follows_call _ _) fun answer => ?_
  cases answer with
  | error cause => exact .pure _
  | ok image =>
    exact .bind (follows_extractFrom api r image) fun outcome =>
      .bind (follows_close api image _ _) fun _ => .pure outcome

theorem follows_insideWim (api : ImagingApi σ) (tempDir : PathText) (r : Request)
    (wim : WimHandle) :
    Follows Recorded.world (insideWim api.recorded tempDir r wim)
      (insideWim api tempDir r wim) := by
  refine .bind (follows_call _ _) fun answer => ?_
  cases answer with
  | error cause => exact .pure _
  | ok _ => exact follows_withImage api r wim

theorem follows_withWim (api : ImagingApi σ) (tempDir : PathText) (r : Request) :
    Follows Recorded.world (withWim api.recorded tempDir r) (withWim api tempDir r) := by
  refine .bind (follows_call _ _) fun answer => ?_
  cases answer with
  | error cause => exact .pure _
  | ok wim =>
    exact .bind (follows_insideWim api tempDir r wim) fun outcome =>
      .bind (follows_close api wim _ _) fun _ => .pure outcome

theorem follows_extract (api : ImagingApi σ) (tempDir : PathText) (r : Request) :
    Follows Recorded.world (extract api.recorded tempDir r) (extract api tempDir r) := by
  refine .bind (follows_call _ _) fun available => ?_
  cases available with
  | false => exact .pure _
  | true => exact .bind (.note _) fun _ => follows_withWim api tempDir r

/-- Recording changes nothing about a sequence of extractions. -/
theorem follows_extractAll (api : ImagingApi σ) (tempDir : PathText) (requests : List Request) :
    Follows Recorded.world (extractAll api.recorded tempDir requests)
      (extractAll api tempDir requests) := by
  induction requests with
  | nil => exact .pure []
  | cons r rest ih =>
    exact .bind (follows_extract api tempDir r) fun _ => .bind ih fun _ => .pure _

end ImagingApi

end BootMedia
