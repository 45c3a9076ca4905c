import BootMedia.Wim.Extractor
import Mathlib

/-!
Watching an extractor at work. A watched extractor does what it did before, and writes down every
call it makes: which backend it probes or tries, with which request and to what result, and when
it reports a success. Main statement: apart from these records, a watched extractor does exactly
what the extractor itself does.
-/
namespace BootMedia

namespace Activity

variable {σ τ α β : Type} {view : τ → σ}

/-- Seen through `view`, one activity is another. -/
def Follows (view : τ → σ) (y : Activity τ α) (x : Activity σ α) : Prop :=
  ∀ s, x.run (view s) = ⟨(y.run s).value, view (y.run s).state, (y.run s).notices⟩

theorem Follows.pure (a : α) : Follows view (pure a) (pure a) := fun _ => rfl

theorem Follows.note (n : Notice) : Follows view (note n) (note n) := fun _ => rfl

theorem Follows.bind {y : Activity τ α} {x : Activity σ α} {g : α → Activity τ β}
    {f : α → Activity σ β} (h : Follows view y x) (hf : ∀ a, Follows view (g a) (f a)) :
    Follows view (y >>= g) (x >>= f) := by
  intro s
  rw [run_bind, run_bind, h s, hf]

end Activity

/-- An attempt to carry out a request: the place of the backend and its name, the result, and the
diagnostics that the backend left. -/
structure Attempt where
  place : Nat
  method : String
  answer : Except ExtractError Unit
  said : List Notice
deriving DecidableEq

namespace Attempt

/-- A failure is reported once, a success not at all. -/
def warnings (a : Attempt) : List Notice :=
  match a.answer with
  | .ok () => []
  | .error reason => [.attemptFailed a.method reason]

theorem level_of_mem_warnings {a : Attempt} {n : Notice} (h : n ∈ a.warnings) :
    n.level = .warn := by
  unfold warnings at h
  split at h
  · nomatch h
  · rw [List.mem_singleton.mp h]
    rfl

end Attempt

/-- Something an extractor asks of its backends, by their places in its list, or of whoever wants
to know of a success. -/
inductive Call
  | probe (place : Nat) (answer : Bool)
  | extract (r : Request) (attempt : Attempt)
  | complete (said : List Notice)
deriving DecidableEq

/-- A world, and the calls that were made in it, in order. -/
structure Watched (σ : Type) where
  world : σ
  calls : List Call

def Activity.watched {σ α : Type} (x : Activity σ α) (call : α → List Notice → Call) :
    Activity (Watched σ) α :=
  ⟨fun w =>
    let reply := x.run w.world
    ⟨reply.value, ⟨reply.state, w.calls ++ [call reply.value reply.notices]⟩, reply.notices⟩⟩

def Backend.watched {σ : Type} (b : Backend σ) (place : Nat) : Backend (Watched σ) where
  name := b.name
  probe := b.probe.watched fun answer _ => .probe place answer
  extract r := (b.extract r).watched fun answer said => .extract r ⟨place, b.name, answer, said⟩

/-- The backends of a list whose first one has a given place. -/
def Backend.watchedFrom {σ : Type} (place : Nat) (bs : List (Backend σ)) :
    List (Backend (Watched σ)) :=
  (bs.zipIdx place).map fun b => b.1.watched b.2

namespace Session

variable {σ : Type}

def watched (s : Session σ) : Session (Watched σ) := ⟨s.snapshot, ⟨s.world, []⟩⟩

def unwatched (s : Session (Watched σ)) : Session σ := ⟨s.snapshot, s.world.world⟩

end Session

namespace Extractor

open Activity

variable {σ α : Type}

def watched (e : Extractor σ) : Extractor (Watched σ) where
  backends := Backend.watchedFrom 0 e.backends
  onComplete := e.onComplete.watched fun _ said => .complete said

theorem follows_onComplete (e : Extractor σ) :
    Follows Watched.world e.watched.onComplete e.onComplete := fun _ => rfl

theorem follows_inWorld {y : Activity (Watched σ) α} {x : Activity σ α}
    (h : Follows Watched.world y x) :
    Follows Session.unwatched (Session.inWorld y) (Session.inWorld x) := by
  intro s
  simp only [Session.inWorld, run_within, Session.unwatched]
  rw [h s.world]

theorem follows_probeAll (place : Nat) (bs : List (Backend σ)) :
    Follows Watched.world (probeAll (Backend.watchedFrom place bs)) (probeAll bs) := by
  induction bs generalizing place with
  | nil => exact .pure []
  | cons b rest ih =>
    exact .bind (fun _ => rfl) fun usable => .bind (ih (place + 1)) fun others => .pure _

theorem follows_tryInTurn (r : Request) (place : Nat) (bs : List (Backend σ))
    (answers : List Bool) :
    Follows Watched.world (tryInTurn r ((Backend.watchedFrom place bs).zip answers))
      (tryInTurn r (bs.zip answers)) := by
  induction bs generalizing place answers with
  | nil => exact .pure false
  | cons b rest ih =>
    cases answers with
    | nil => exact .pure false
    | cons usable others =>
      have hrest := ih (place + 1) others
      cases usable with
      | false => exact hrest
      | true =>
        refine .bind (fun _ => rfl) fun answer => ?_
        cases answer with
        | ok _ => exact .pure true
        | error reason => exact .bind (.note _) fun _ => hrest

theorem follows_reprobe (e : Extractor σ) :
    Follows Session.unwatched e.watched.reprobe e.reprobe :=
  .bind (follows_inWorld (follows_probeAll 0 e.backends)) fun _ =>
    .bind (.note _) fun _ => .bind (fun _ => rfl) fun _ => .pure _

theorem follows_capabilities (e : Extractor σ) :
    Follows Session.unwatched e.watched.capabilities e.capabilities := by
  refine .bind (fun _ => rfl) fun snapshot => ?_
  cases snapshot with
  | none => exact follows_reprobe e
  | some known => exact .pure known

theorem follows_carryOut (e : Extractor σ) (r : Request) (known : Capabilities) :
    Follows Session.unwatched (e.watched.carryOut r known) (e.carryOut r known) := by
  unfold carryOut
  cases known.any with
  | false => exact .pure _
  | true =>
    refine .bind (follows_inWorld (follows_tryInTurn r 0 e.backends _)) fun succeeded => ?_
    cases succeeded with
    | true => exact .bind (follows_inWorld (follows_onComplete e)) fun _ => .pure _
    | false => exact .pure _

/-- Watching an extractor changes nothing about what it does. -/
theorem follows_extract (e : Extractor σ) (r : Request) :
    Follows Session.unwatched (e.watched.extract r) (e.extract r) := by
  unfold extract
  cases r.validate with
  | error reason => exact .pure _
  | ok _ => exact .bind (follows_capabilities e) fun known => follows_carryOut e r known

end Extractor

end BootMedia
