import BootMedia.Proofs.Wim.Fallback

/-!
An extractor in use: it is asked what the host supports, told to look again, or given a request,
any number of times in any order. Main statements: what each operation answers, which calls it
makes and what is known of the host after it follow from what was known before; and a whole
sequence of operations is conducted in this way, one after the other.
-/
namespace BootMedia

inductive Operation
  | capabilities
  | reprobe
  | extract (r : Request)
deriving DecidableEq

inductive Operation.Answer
  | supported (known : Capabilities)
  | extracted (outcome : Except ExtractError Unit)

/-- Nothing that a request needs is empty. -/
def Request.InOrder (r : Request) : Prop := r.image ≠ [] ∧ r.src ≠ [] ∧ r.dst ≠ []

instance (r : Request) : Decidable r.InOrder := by
  unfold Request.InOrder
  infer_instance

theorem Request.validate_of_not_inOrder {r : Request} (h : ¬ r.InOrder) :
    ∃ what, r.validate = .error (.invalidRequest what) := by
  apply validate_of_empty
  by_contra hnone
  rw [not_or, not_or] at hnone
  exact h hnone

namespace Extractor

variable {σ : Type}

def perform (e : Extractor σ) : Operation → Activity (Session σ) Operation.Answer
  | .capabilities => do return .supported (← e.capabilities)
  | .reprobe => do return .supported (← e.reprobe)
  | .extract r => do return .extracted (← e.extract r)

def performAll (e : Extractor σ) :
    List Operation → Activity (Session σ) (List Operation.Answer)
  | [] => return []
  | op :: rest => do
    let answer ← e.perform op
    let others ← e.performAll rest
    return answer :: others

theorem follows_perform (e : Extractor σ) (op : Operation) :
    Activity.Follows Session.unwatched (e.watched.perform op) (e.perform op) := by
  cases op with
  | capabilities => exact .bind (follows_capabilities e) fun _ => .pure _
  | reprobe => exact .bind (follows_reprobe e) fun _ => .pure _
  | extract r => exact .bind (follows_extract e r) fun _ => .pure _

theorem follows_performAll (e : Extractor σ) (ops : List Operation) :
    Activity.Follows Session.unwatched (e.watched.performAll ops) (e.performAll ops) := by
  induction ops with
  | nil => exact .pure []
  | cons op rest ih => exact .bind (follows_perform e op) fun _ => .bind ih fun _ => .pure _

end Extractor

namespace Capabilities

/-- One entry for each backend, in order and under its name. -/
def Covers {σ : Type} (c : Capabilities) (e : Extractor σ) : Prop :=
  c.entries.map (·.1) = e.backends.map Backend.name

/-- The round of calls that found these answers: every backend is asked once, in order. -/
def round (c : Capabilities) : List Call :=
  (c.entries.map (·.2)).zipIdx.map fun answer => .probe answer.2 answer.1

end Capabilities

section Conduct

variable {σ : Type}

/-- How an operation gets to know what the host supports: from what was found before, or from a
first round of probes. -/
inductive Looks (e : Extractor σ) : Option Capabilities → Capabilities → List Call → Prop
  | known {c : Capabilities} (h : c.Covers e) : Looks e (some c) c []
  | first {c : Capabilities} (h : c.Covers e) : Looks e none c c.round

/-- One operation, between what is known of the host before and after it: what it answers, and the
calls it makes. -/
inductive Conducts (e : Extractor σ) : Option Capabilities → Operation → Operation.Answer →
    Option Capabilities → List Call → Prop
  | asked {before : Option Capabilities} {known : Capabilities} {probes : List Call}
      (h : Looks e before known probes) :
      Conducts e before .capabilities (.supported known) (some known) probes
  | reprobed {before : Option Capabilities} {found : Capabilities} (h : found.Covers e) :
      Conducts e before .reprobe (.supported found) (some found) found.round
  | rejected {before : Option Capabilities} {r : Request} {what : String} (hr : ¬ r.InOrder) :
      Conducts e before (.extract r) (.extracted (.error (.invalidRequest what))) before []
  | carriedOut {before : Option Capabilities} {r : Request} {known : Capabilities}
      {probes : List Call} {attempts : List Attempt} {outcome : Except ExtractError Unit}
      (hr : r.InOrder) (h : Looks e before known probes)
      (hfalls : FallsBack e r (known.entries.findIdxs (·.2)) attempts outcome)
      (said : List Notice) :
      Conducts e before (.extract r) (.extracted outcome) (some known)
        (probes ++ attempts.map (Call.extract r) ++
          if outcome = .ok () then [.complete said] else [])

/-- A sequence of operations, with the calls of each behind those of the one before. -/
inductive ConductsAll (e : Extractor σ) : Option Capabilities → List Operation →
    List Operation.Answer → Option Capabilities → List Call → Prop
  | done (known : Option Capabilities) : ConductsAll e known [] [] known []
  | step {before between after : Option Capabilities} {op : Operation} {rest : List Operation}
      {answer : Operation.Answer} {others : List Operation.Answer} {calls more : List Call}
      (h : Conducts e before op answer between calls)
      (hrest : ConductsAll e between rest others after more) :
      ConductsAll e before (op :: rest) (answer :: others) after (calls ++ more)

theorem Looks.covers {e : Extractor σ} {before : Option Capabilities} {known : Capabilities}
    {probes : List Call} (h : Looks e before known probes) : known.Covers e := by
  cases h with
  | known h => exact h
  | first h => exact h

theorem Conducts.covers {e : Extractor σ} {before after : Option Capabilities} {op : Operation}
    {answer : Operation.Answer} {calls : List Call} (h : Conducts e before op answer after calls)
    (hbefore : ∀ c ∈ before, c.Covers e) : ∀ c ∈ after, c.Covers e := by
  intro c hc
  cases h with
  | asked h => exact Option.some.inj hc ▸ h.covers
  | reprobed h => exact Option.some.inj hc ▸ h
  | rejected hr => exact hbefore c hc
  | carriedOut hr h hfalls => exact Option.some.inj hc ▸ h.covers

end Conduct

namespace Extractor

variable {σ : Type} (e : Extractor σ) (s : Session (Watched σ))

theorem run_reprobe_watched :
    (e.watched.reprobe.run s).value.Covers e ∧
      (e.watched.reprobe.run s).state.snapshot = some (e.watched.reprobe.run s).value ∧
      (e.watched.reprobe.run s).state.world.calls =
        s.world.calls ++ (e.watched.reprobe.run s).value.round := by
  obtain ⟨hnames, hcalls⟩ := run_probeAll_watched 0 e.backends s.world
  exact ⟨hnames, rfl, hcalls⟩

/-- Only a first use looks at the host. -/
theorem looks_capabilities (hs : ∀ c ∈ s.snapshot, c.Covers e) :
    ∃ probes, Looks e s.snapshot (e.watched.capabilities.run s).value probes ∧
      (e.watched.capabilities.run s).state.snapshot =
        some (e.watched.capabilities.run s).value ∧
      (e.watched.capabilities.run s).state.world.calls = s.world.calls ++ probes := by
  cases hsnapshot : s.snapshot with
  | some known =>
    have hrun : e.watched.capabilities.run s = ⟨known, s, []⟩ := by
      simp only [capabilities, Activity.run_bind, Activity.run_look, hsnapshot,
        Activity.run_pure, List.nil_append]
    rw [hrun]
    exact ⟨[], .known (hs known hsnapshot), hsnapshot, (List.append_nil _).symm⟩
  | none =>
    have hrun : e.watched.capabilities.run s = e.watched.reprobe.run s := by
      simp only [capabilities, Activity.run_bind, Activity.run_look, hsnapshot, List.nil_append]
    obtain ⟨hcovers, hkept, hcalls⟩ := run_reprobe_watched e s
    rw [hrun]
    exact ⟨_, .first hcovers, hkept, hcalls⟩

theorem run_extract_of_not_inOrder {τ : Type} (e : Extractor τ) {r : Request} (hr : ¬ r.InOrder)
    (s : Session τ) :
    ∃ what, (e.extract r).run s = ⟨.error (.invalidRequest what), s, []⟩ := by
  obtain ⟨what, hwhat⟩ := Request.validate_of_not_inOrder hr
  exact ⟨what, by simp only [extract, hwhat, Activity.run_pure]⟩

theorem conducts_extract {r : Request} (hr : r.InOrder) (hs : ∀ c ∈ s.snapshot, c.Covers e) :
    ∃ calls, Conducts e s.snapshot (.extract r) (.extracted ((e.watched.extract r).run s).value)
        ((e.watched.extract r).run s).state.snapshot calls ∧
      ((e.watched.extract r).run s).state.world.calls = s.world.calls ++ calls := by
  obtain ⟨probes, hlooks, hkept, hcalls⟩ := looks_capabilities e s hs
  rw [run_extract_of_valid e.watched (Request.validate_eq_ok hr.1 hr.2.1 hr.2.2) s]
  obtain ⟨looked, hlooked⟩ : ∃ looked, e.watched.capabilities.run s = looked := ⟨_, rfl⟩
  rw [hlooked] at hlooks hkept hcalls ⊢
  have hlength : looked.value.entries.length = e.backends.length := by
    simpa using congrArg List.length hlooks.covers
  obtain ⟨attempts, said, hfalls, hmore, -⟩ :=
    run_carryOut_watched e r looked.value hlength looked.state
  have hsnapshot := snapshot_carryOut e.watched r looked.value looked.state
  obtain ⟨reply, hreply⟩ :
    ∃ reply, (e.watched.carryOut r looked.value).run looked.state = reply := ⟨_, rfl⟩
  rw [hreply] at hfalls hmore hsnapshot ⊢
  refine ⟨probes ++ attempts.map (Call.extract r) ++
    (if reply.value = .ok () then [.complete said] else []), ?conducts, ?logged⟩
  case conducts =>
    dsimp only
    rw [hsnapshot, hkept]
    exact .carriedOut hr hlooks hfalls said
  case logged =>
    dsimp only
    rw [hmore, hcalls]
    simp only [List.append_assoc]

theorem conducts_perform (op : Operation) (hs : ∀ c ∈ s.snapshot, c.Covers e) :
    ∃ calls, Conducts e s.snapshot op ((e.watched.perform op).run s).value
        ((e.watched.perform op).run s).state.snapshot calls ∧
      ((e.watched.perform op).run s).state.world.calls = s.world.calls ++ calls := by
  cases op with
  | capabilities =>
    obtain ⟨probes, hlooks, hkept, hcalls⟩ := looks_capabilities e s hs
    refine ⟨probes, ?_, hcalls⟩
    change Conducts e _ _ _ (e.watched.capabilities.run s).state.snapshot _
    rw [hkept]
    exact .asked hlooks
  | reprobe =>
    obtain ⟨hcovers, hkept, hcalls⟩ := run_reprobe_watched e s
    exact ⟨_, .reprobed hcovers, hcalls⟩
  | extract r =>
    by_cases hr : r.InOrder
    · exact conducts_extract e s hr hs
    · obtain ⟨what, hrun⟩ := run_extract_of_not_inOrder e.watched hr s
      have hperform : (e.watched.perform (.extract r)).run s =
          ⟨.extracted (.error (.invalidRequest what)), s, []⟩ := by
        simp only [perform, Activity.run_bind, hrun, Activity.run_pure, List.nil_append]
      rw [hperform]
      exact ⟨[], .rejected hr, (List.append_nil _).symm⟩

/-- Every sequence of operations is conducted by what is known of the host at each moment. -/
theorem conductsAll_performAll (ops : List Operation) (hs : ∀ c ∈ s.snapshot, c.Covers e) :
    ∃ calls, ConductsAll e s.snapshot ops ((e.watched.performAll ops).run s).value
        ((e.watched.performAll ops).run s).state.snapshot calls ∧
      ((e.watched.performAll ops).run s).state.world.calls = s.world.calls ++ calls := by
  induction ops generalizing s with
  | nil => exact ⟨[], .done s.snapshot, (List.append_nil _).symm⟩
  | cons op rest ih =>
    obtain ⟨calls, hstep, hcalls⟩ := conducts_perform e s op hs
    obtain ⟨more, hrest, hmore⟩ := ih ((e.watched.perform op).run s).state (hstep.covers hs)
    refine ⟨calls ++ more, .step hstep hrest, ?_⟩
    rw [← List.append_assoc, ← hcalls]
    exact hmore

end Extractor

end BootMedia
