import BootMedia.Wim.Archiver
import BootMedia.Wim.Capabilities
import BootMedia.Wim.Config
import BootMedia.Wim.ImagingApi

/-!
An extractor tries its backends in order of preference until one succeeds. What the host supports
is probed on first use and kept until it is asked for again; a backend whose probe failed is not
tried. The failures of single backends are only reported as diagnostics.
-/
namespace BootMedia

/-- Backends in order of preference, and what to do after each success. -/
structure Extractor (σ : Type) where
  backends : List (Backend σ)
  onComplete : Activity σ Unit

/-- The state of an extractor at work: what it found the host to support, if it has looked, and
the state its backends work on. -/
structure Session (σ : Type) where
  snapshot : Option Capabilities
  world : σ

namespace Session

variable {σ : Type}

def fresh (world : σ) : Session σ := ⟨none, world⟩

def inWorld {α : Type} (x : Activity σ α) : Activity (Session σ) α :=
  x.within Session.world fun s world => { s with world }

def keep (c : Capabilities) : Activity (Session σ) Unit :=
  Activity.silent fun s => ((), { s with snapshot := some c })

end Session

namespace Extractor

variable {σ : Type}

def ofBackends (backends : List (Backend σ)) : Extractor σ := ⟨backends, pure ()⟩

/-- What the extractor does after each success, in place of what it did before. -/
def withCompletion (e : Extractor σ) (hook : Activity σ Unit) : Extractor σ :=
  { e with onComplete := hook }

/-- The archiver first, then the imaging interface, which this host does not have. -/
def ofConfig (config : Config) (tempDir : PathText) : Extractor Desk :=
  ofBackends
    [Archiver.backend (ArchiverSearch.locate config.archiver) config.expectedOutput,
     ImagingApi.missing.backend tempDir]

def probeAll : List (Backend σ) → Activity σ (List (String × Bool))
  | [] => return []
  | b :: rest => do
    let usable ← b.probe
    let others ← probeAll rest
    return (b.name, usable) :: others

/-- Probes all backends and keeps the answers in place of earlier ones. -/
def reprobe (e : Extractor σ) : Activity (Session σ) Capabilities := do
  let found : Capabilities := ⟨← Session.inWorld (probeAll e.backends)⟩
  Activity.note (.methods found.available)
  Session.keep found
  return found

def capabilities (e : Extractor σ) : Activity (Session σ) Capabilities := do
  match ← Activity.look Session.snapshot with
  | some known => return known
  | none => e.reprobe

def tryInTurn (r : Request) : List (Backend σ × Bool) → Activity σ Bool
  | [] => return false
  | (_, false) :: rest => tryInTurn r rest
  | (b, true) :: rest => do
    match ← b.extract r with
    | .ok () => return true
    | .error reason =>
      Activity.note (.attemptFailed b.name reason)
      tryInTurn r rest

def carryOut (e : Extractor σ) (r : Request) (known : Capabilities) :
    Activity (Session σ) (Except ExtractError Unit) := do
  if !known.any then return .error .noBackend
  else if ← Session.inWorld (tryInTurn r (e.backends.zip (known.entries.map (·.2)))) then
    Session.inWorld e.onComplete
    return .ok ()
  else return .error .allBackendsFailed

def extract (e : Extractor σ) (r : Request) :
    Activity (Session σ) (Except ExtractError Unit) := do
  match r.validate with
  | .error reason => return .error reason
  | .ok () =>
    let known ← e.capabilities
    e.carryOut r known

end Extractor

end BootMedia
