import BootMedia.Activity
import BootMedia.Wim.Request

/-!
A backend is one way of taking a file out of a WIM image. It can tell whether it would work on
this host at all, and it can try.
-/
namespace BootMedia

/-- An extraction method over a state `σ`. -/
structure Backend (σ : Type) where
  name : String
  probe : Activity σ Bool
  extract : Request → Activity σ (Except ExtractError Unit)

def Backend.within {σ τ : Type} (part : σ → τ) (replace : σ → τ → σ) (b : Backend τ) :
    Backend σ :=
  ⟨b.name, b.probe.within part replace, fun r => (b.extract r).within part replace⟩

end BootMedia
