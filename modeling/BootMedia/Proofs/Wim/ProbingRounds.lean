import BootMedia.Proofs.Wim.Operations

/-!
How often a host is probed, and what is known of it meanwhile. Main statement: over any sequence of
operations each backend is probed once for every reprobe, and once more if the host is asked about
before the first of them; the probes come in rounds over all backends, and what is known is what
the latest round found.
-/
namespace BootMedia

namespace Call

def isProbe : Call → Bool
  | probe .. => true
  | _ => false

def probes (place : Nat) : Call → Bool
  | probe asked _ => asked == place
  | _ => false

theorem isProbe_of_probes {place : Nat} {c : Call} (h : c.probes place = true) :
    c.isProbe = true := by
  cases c with
  | probe asked answer => rfl
  | extract r a => nomatch h
  | complete said => nomatch h

end Call

namespace Operation

def isReprobe : Operation → Bool
  | reprobe => true
  | _ => false

/-- The operation is about what the host supports, and does not ask to look again. -/
def looks : Operation → Bool
  | capabilities => true
  | reprobe => false
  | extract r => decide r.InOrder

/-- The rounds of probes in a sequence of operations. -/
def rounds (ops : List Operation) : Nat :=
  ops.countP isReprobe + if (ops.takeWhile (!·.isReprobe)).any looks then 1 else 0

/-- The rounds of probes that are left where something may be known. -/
def roundsAfter (known : Option Capabilities) (ops : List Operation) : Nat :=
  ops.countP isReprobe +
    if known.isNone && (ops.takeWhile (!·.isReprobe)).any looks then 1 else 0

theorem roundsAfter_some (known : Capabilities) (ops : List Operation) :
    roundsAfter (some known) ops = ops.countP isReprobe := by
  simp [roundsAfter]

section Cons

variable (before : Option Capabilities) (known : Capabilities) (rest : List Operation)

theorem roundsAfter_reprobe :
    roundsAfter before (.reprobe :: rest) = 1 + roundsAfter (some known) rest := by
  rw [roundsAfter_some, roundsAfter, List.countP_cons_of_pos rfl, Nat.add_comm 1]
  simp [isReprobe]

theorem roundsAfter_of_looks {op : Operation} (h : op.looks = true) :
    roundsAfter before (op :: rest) =
      (if before.isNone then 1 else 0) + roundsAfter (some known) rest := by
  have hother : op.isReprobe = false := by
    cases op with
    | reprobe => nomatch h
    | capabilities => rfl
    | extract r => rfl
  rw [roundsAfter_some, roundsAfter, List.countP_cons_of_neg (by simp [hother]), Nat.add_comm]
  simp [hother, h]

theorem roundsAfter_of_rejected {r : Request} (h : ¬ r.InOrder) :
    roundsAfter before (.extract r :: rest) = roundsAfter before rest := by
  simp [roundsAfter, isReprobe, looks, h]

end Cons

end Operation

/-- Between two moments the host was probed in rounds, and the latest one is what is known. -/
structure Probed {σ : Type} (e : Extractor σ) (before after : Option Capabilities)
    (calls : List Call) (rounds : List Capabilities) : Prop where
  covers : ∀ c ∈ rounds, c.Covers e
  inRounds : calls.filter Call.isProbe = rounds.flatMap Capabilities.round
  latest : after = rounds.getLast?.or before

namespace Probed

variable {σ : Type} {e : Extractor σ} {before between after : Option Capabilities}
  {calls more : List Call} {rounds later : List Capabilities}

theorem filter_round (c : Capabilities) : c.round.filter Call.isProbe = c.round := by
  apply List.filter_eq_self.mpr
  intro call hcall
  obtain ⟨answer, -, rfl⟩ := List.mem_map.mp hcall
  rfl

theorem none (before : Option Capabilities) (h : calls.filter Call.isProbe = []) :
    Probed e before before calls [] := ⟨by simp, by simpa using h, rfl⟩

theorem one {c : Capabilities} (h : c.Covers e) (before : Option Capabilities) :
    Probed e before (some c) c.round [c] :=
  ⟨by simpa using h, by simpa using filter_round c, rfl⟩

theorem trans (h : Probed e before between calls rounds)
    (hlater : Probed e between after more later) :
    Probed e before after (calls ++ more) (rounds ++ later) := by
  refine ⟨?covers, ?inRounds, ?latest⟩
  case covers =>
    intro c hc
    rcases List.mem_append.mp hc with hfirst | hsecond
    · exact h.covers c hfirst
    · exact hlater.covers c hsecond
  case inRounds => rw [List.filter_append, List.flatMap_append, h.inRounds, hlater.inRounds]
  case latest => rw [hlater.latest, h.latest, List.getLast?_append, Option.or_assoc]

theorem countP_round {c : Capabilities} (hc : c.Covers e) {place : Nat}
    (hplace : place < e.backends.length) : c.round.countP (Call.probes place) = 1 := by
  have hlength : (c.entries.map (·.2)).length = e.backends.length := by
    simpa using congrArg List.length hc
  have hplaces : c.round.countP (Call.probes place) =
      (List.range' 0 (c.entries.map (·.2)).length).count place := by
    rw [← List.zipIdx_map_snd 0, List.count, List.countP_map, Capabilities.round, List.countP_map]
    rfl
  rw [hplaces, hlength]
  exact List.count_eq_one_of_mem (List.nodup_range' ..) (by simp [List.mem_range', hplace])

theorem countP_eq_length (h : Probed e before after calls rounds) {place : Nat}
    (hplace : place < e.backends.length) : calls.countP (Call.probes place) = rounds.length := by
  have hfilter : calls.countP (Call.probes place) =
      (calls.filter Call.isProbe).countP (Call.probes place) := by
    rw [List.countP_filter]
    apply List.countP_congr
    intro call _
    simp only [Bool.and_eq_true]
    exact ⟨fun hp => ⟨hp, Call.isProbe_of_probes hp⟩, And.left⟩
  rw [hfilter, h.inRounds, List.countP_flatMap]
  have hones : rounds.map (List.countP (Call.probes place) ∘ Capabilities.round) =
      List.replicate rounds.length 1 := by
    apply List.eq_replicate_iff.mpr
    refine ⟨List.length_map _, ?_⟩
    intro n hn
    obtain ⟨c, hc, rfl⟩ := List.mem_map.mp hn
    exact countP_round (h.covers c hc) hplace
  rw [hones, List.sum_replicate, smul_eq_mul, Nat.mul_one]

end Probed

section Conduct

variable {σ : Type} {e : Extractor σ} {before after : Option Capabilities}

theorem Looks.probed {known : Capabilities} {probes : List Call}
    (h : Looks e before known probes) :
    ∃ rounds, Probed e before (some known) probes rounds ∧
      rounds.length = if before.isNone then 1 else 0 := by
  cases h with
  | known h => exact ⟨[], .none _ rfl, rfl⟩
  | first h => exact ⟨[known], .one h _, rfl⟩

theorem filter_isProbe_attempts (r : Request) (attempts : List Attempt)
    (outcome : Except ExtractError Unit) (said : List Notice) :
    List.filter Call.isProbe (attempts.map (Call.extract r) ++
      if outcome = .ok () then [.complete said] else []) = [] := by
  apply List.filter_eq_nil_iff.mpr
  intro call hcall
  rcases List.mem_append.mp hcall with hattempt | hcomplete
  · obtain ⟨a, -, rfl⟩ := List.mem_map.mp hattempt
    exact Bool.false_ne_true
  · by_cases hok : outcome = .ok ()
    · rw [if_pos hok] at hcomplete
      rw [List.mem_singleton.mp hcomplete]
      exact Bool.false_ne_true
    · rw [if_neg hok] at hcomplete
      nomatch hcomplete

/-- An operation takes the rounds that it adds to those that are left behind it. -/
theorem Conducts.probed {op : Operation} {answer : Operation.Answer} {calls : List Call}
    (h : Conducts e before op answer after calls) :
    ∃ rounds, Probed e before after calls rounds ∧ ∀ rest,
      Operation.roundsAfter before (op :: rest) =
        rounds.length + Operation.roundsAfter after rest := by
  cases h with
  | asked h =>
    obtain ⟨rounds, hprobed, hlength⟩ := h.probed
    exact ⟨rounds, hprobed, fun rest => hlength ▸ Operation.roundsAfter_of_looks before _ rest rfl⟩
  | reprobed h => exact ⟨_, .one h before, Operation.roundsAfter_reprobe before _⟩
  | rejected hr =>
    refine ⟨[], .none before rfl, fun rest => ?_⟩
    rw [Operation.roundsAfter_of_rejected before rest hr, List.length_nil, Nat.zero_add]
  | @carriedOut r known probes attempts outcome hr h hfalls said =>
    obtain ⟨rounds, hprobed, hlength⟩ := h.probed
    have hnone := filter_isProbe_attempts r attempts outcome said
    have hall := hprobed.trans (.none (some known) hnone)
    rw [List.append_nil, ← List.append_assoc] at hall
    refine ⟨rounds, hall, fun rest => ?_⟩
    rw [hlength]
    exact Operation.roundsAfter_of_looks before known rest (decide_eq_true hr)

theorem ConductsAll.probed {ops : List Operation} {answers : List Operation.Answer}
    {calls : List Call} (h : ConductsAll e before ops answers after calls) :
    ∃ rounds, Probed e before after calls rounds ∧
      rounds.length = Operation.roundsAfter before ops := by
  induction h with
  | done known => exact ⟨[], .none known rfl, by simp [Operation.roundsAfter]⟩
  | step h hrest ih =>
    obtain ⟨rounds, hprobed, hdue⟩ := h.probed
    obtain ⟨later, hlater, hlength⟩ := ih
    refine ⟨rounds ++ later, hprobed.trans hlater, ?_⟩
    rw [hdue, List.length_append, hlength]

end Conduct

/-- For every list of backends, whatever they answer at each time, and for every sequence of
operations on a fresh extractor: each operation goes by what is known at its moment; the backends
are probed in rounds, each backend once in each round, in order; there is one round for each
reprobe and one more if the host is asked about before the first of them; and what is known is what
the latest round found. A request that is not in order changes nothing, and watching changes
nothing about what the extractor does. -/
theorem Extractor.performAll_probes_in_rounds {σ : Type} (e : Extractor σ) (world : σ)
    (ops : List Operation) :
    let reply := (e.watched.performAll ops).run (Session.fresh world).watched
    let calls := reply.state.world.calls
    (e.performAll ops).run (Session.fresh world) =
      ⟨reply.value, reply.state.unwatched, reply.notices⟩ ∧
    ConductsAll e none ops reply.value reply.state.snapshot calls ∧
    (∃ rounds, Probed e none reply.state.snapshot calls rounds ∧
      rounds.length = Operation.rounds ops) ∧
    (∀ place < e.backends.length,
      calls.countP (Call.probes place) = Operation.rounds ops) ∧
    ∀ r, ¬ r.InOrder → ∀ s, ∃ what,
      (e.extract r).run s = ⟨.error (.invalidRequest what), s, []⟩ := by
  intro reply calls
  have hfresh : ∀ c ∈ (Session.fresh world).watched.snapshot, c.Covers e := nofun
  obtain ⟨made, hconducts, hmade⟩ :=
    conductsAll_performAll e (Session.fresh world).watched ops hfresh
  obtain rfl : made = calls := hmade.symm
  obtain ⟨rounds, hprobed, hlength⟩ := hconducts.probed
  exact ⟨follows_performAll e ops (Session.fresh world).watched, hconducts,
    ⟨rounds, hprobed, hlength⟩, fun place hplace => (hprobed.countP_eq_length hplace).trans hlength,
    fun r hr s => run_extract_of_not_inOrder e hr s⟩

/-- A backend that can be used at every other probe goes on being used until the host is probed
again. -/
example :
    let fickle : Backend Nat :=
      ⟨"7z", Activity.silent fun n => (n % 2 == 0, n + 1), fun _ => pure (.ok ())⟩
    let e := Extractor.ofBackends [fickle]
    let r : Request := ⟨['i'], 1, ['a'], ['b']⟩
    let ops : List Operation :=
      [.extract { r with src := [] }, .extract r, .capabilities, .extract r, .reprobe, .extract r]
    let reply := (e.watched.performAll ops).run (Session.fresh 0).watched
    reply.state.world.calls =
        [.probe 0 true, .extract r ⟨0, "7z", .ok (), []⟩, .complete [],
          .extract r ⟨0, "7z", .ok (), []⟩, .complete [], .probe 0 false] ∧
      reply.state.snapshot = some ⟨[("7z", false)]⟩ := ⟨rfl, rfl⟩

end BootMedia
