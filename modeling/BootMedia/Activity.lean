import BootMedia.Notice

/-!
Activities: steps on a state that give a value and leave diagnostics behind. Following one
activity by another passes the state on and keeps the diagnostics in order.
-/
namespace BootMedia

/-- What an activity comes to. -/
structure Reply (σ α : Type) where
  value : α
  state : σ
  notices : List Notice

/-- A step on a state `σ` that gives an `α`. -/
structure Activity (σ α : Type) where
  run : σ → Reply σ α

namespace Activity

variable {σ τ α β : Type}

instance : Monad (Activity σ) where
  pure a := ⟨fun s => ⟨a, s, []⟩⟩
  bind x f := ⟨fun s =>
    let first := x.run s
    let second := (f first.value).run first.state
    ⟨second.value, second.state, first.notices ++ second.notices⟩⟩

@[simp] theorem run_pure (a : α) (s : σ) : (pure a : Activity σ α).run s = ⟨a, s, []⟩ := rfl

@[simp] theorem run_bind (x : Activity σ α) (f : α → Activity σ β) (s : σ) :
    (x >>= f).run s =
      ⟨((f (x.run s).value).run (x.run s).state).value,
       ((f (x.run s).value).run (x.run s).state).state,
       (x.run s).notices ++ ((f (x.run s).value).run (x.run s).state).notices⟩ := rfl

def note (n : Notice) : Activity σ Unit := ⟨fun s => ⟨(), s, [n]⟩⟩

def noteAll (ns : List Notice) : Activity σ Unit := ⟨fun s => ⟨(), s, ns⟩⟩

def look (f : σ → α) : Activity σ α := ⟨fun s => ⟨f s, s, []⟩⟩

/-- A step without diagnostics. -/
def silent (f : σ → α × σ) : Activity σ α := ⟨fun s => ⟨(f s).1, (f s).2, []⟩⟩

/-- An activity on one part of a larger state. -/
def within (part : σ → τ) (replace : σ → τ → σ) (x : Activity τ α) : Activity σ α :=
  ⟨fun s =>
    let reply := x.run (part s)
    ⟨reply.value, replace s reply.state, reply.notices⟩⟩

@[simp] theorem run_note (n : Notice) (s : σ) : (note n).run s = ⟨(), s, [n]⟩ := rfl

@[simp] theorem run_noteAll (ns : List Notice) (s : σ) : (noteAll ns).run s = ⟨(), s, ns⟩ := rfl

@[simp] theorem run_look (f : σ → α) (s : σ) : (look f).run s = ⟨f s, s, []⟩ := rfl

@[simp] theorem run_silent (f : σ → α × σ) (s : σ) :
    (silent f).run s = ⟨(f s).1, (f s).2, []⟩ := rfl

@[simp] theorem run_within (part : σ → τ) (replace : σ → τ → σ) (x : Activity τ α) (s : σ) :
    (within part replace x).run s =
      ⟨(x.run (part s)).value, replace s (x.run (part s)).state, (x.run (part s)).notices⟩ := rfl

end Activity

end BootMedia
