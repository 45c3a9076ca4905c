import BootMedia.Proofs.Transfer.Chunking

/-!
A read as the source sees it: calls that are made one after the other, and what each of them brings.
Main statements: every call asks for exactly what is missing, at the offset where the bytes obtained
so far end; the read succeeds if and only if nothing is missing in the end, and what it returns then
are the bytes of its window; a call that brings nothing, or fails for good, is the last one and ends
the read with an error, and nothing else keeps the read from going on until nothing is missing; and
nothing outside the window has an influence.
-/
namespace BootMedia

namespace Turn

def brings (s : Source) (call : ReadCall) : Turn → Bytes
  | limit most => s.window call.offset.toNat (min most call.count)
  | fault _ => []

/-- A read call that goes this way ends the read: it fails for good, or brings nothing. -/
def Stops (s : Source) (call : ReadCall) (cause : Fault) : Turn → Prop
  | limit most => (limit most).brings s call = [] ∧ cause = Fault.shortRead
  | fault found => found = cause ∧ cause.isInterrupted = false

/-- How a read call goes, counted from zero; behind the end of the script it is served in full. -/
def ofRead (turns : List Turn) (k : Nat) (call : ReadCall) : Turn :=
  turns[k]?.getD (limit call.count)

variable {s : Source} {call : ReadCall}

theorem ofRead_succ (turns : List Turn) (k : Nat) (call : ReadCall) :
    ofRead turns (k + 1) call = ofRead turns.tail k call := by
  rw [ofRead, ofRead, List.getElem?_tail]

theorem length_brings_le (t : Turn) : (t.brings s call).length ≤ call.count := by
  cases t with
  | limit most =>
    rw [brings, Source.length_window]
    omega
  | fault _ => exact Nat.zero_le _

theorem brings_eq_window (t : Turn) :
    t.brings s call = s.window call.offset.toNat (t.brings s call).length := by
  cases t with
  | limit most =>
    have hmin : min (min (min most call.count) (s.size - call.offset.toNat))
        (s.size - call.offset.toNat) = min (min most call.count) (s.size - call.offset.toNat) := by
      omega
    rw [brings, Source.length_window, Source.window, Source.window, hmin]
  | fault _ => simp [brings, Source.window]

theorem Stops.brings_eq {t : Turn} {cause : Fault} (h : t.Stops s call cause) :
    t.brings s call = [] := by
  cases t with
  | limit most => exact h.1
  | fault _ => rfl

theorem Stops.cause_unique {t : Turn} {cause other : Fault} (h : t.Stops s call cause)
    (h' : t.Stops s call other) : cause = other := by
  cases t with
  | limit most => exact h.2.trans h'.2.symm
  | fault found => exact h.1.symm.trans h'.1

theorem Stops.cause_of_onlyDelays {t : Turn} {cause : Fault} (h : t.Stops s call cause)
    (ht : t.OnlyDelays) : cause = Fault.shortRead := by
  cases t with
  | limit most => exact h.2
  | fault found =>
    obtain ⟨rfl, hfinal⟩ := h
    exact absurd (hfinal.symm.trans ht) Bool.false_ne_true

end Turn

def obtained (s : Source) (turns : List Turn) : List ReadCall → Bytes
  | [] => []
  | call :: calls => (Turn.ofRead turns 0 call).brings s call ++ obtained s turns.tail calls

/-- The calls of a read of a window, with what came of it. -/
structure ReadRun.Contiguous (run : ReadRun) (s : Source) (turns : List Turn)
    (offset count : Nat) : Prop where
  placed : ∀ k (h : k < run.calls.length),
    run.calls[k].offset.toNat = offset + (obtained s turns (run.calls.take k)).length ∧
      run.calls[k].count + (obtained s turns (run.calls.take k)).length = count ∧
        0 < run.calls[k].count
  obtained_eq : obtained s turns run.calls =
    s.window offset (obtained s turns run.calls).length
  length_le : (obtained s turns run.calls).length ≤ count
  succeeds : ∀ b, run.outcome = .ok b ↔ b = obtained s turns run.calls ∧ b.length = count
  stops : ∀ k (h : k < run.calls.length) cause,
    (Turn.ofRead turns k run.calls[k]).Stops s run.calls[k] cause →
      run.outcome = .error cause ∧ k + 1 = run.calls.length
  failed : ∀ cause, run.outcome = .error cause → ∃ k, ∃ h : k < run.calls.length,
    k + 1 = run.calls.length ∧ (Turn.ofRead turns k run.calls[k]).Stops s run.calls[k] cause

namespace ReadRun

variable {s : Source} {turns : List Turn}

/-- A read goes on until nothing is missing, or a call ends it. -/
theorem Contiguous.complete_or_stopped {run : ReadRun} {offset count : Nat}
    (h : run.Contiguous s turns offset count) :
    (obtained s turns run.calls).length = count ∨ ∃ k, ∃ hk : k < run.calls.length,
      k + 1 = run.calls.length ∧
        ∃ cause, (Turn.ofRead turns k run.calls[k]).Stops s run.calls[k] cause := by
  cases hrun : run.outcome with
  | ok b =>
    obtain ⟨hb, hlength⟩ := (h.succeeds b).mp hrun
    exact Or.inl (hb ▸ hlength)
  | error cause =>
    obtain ⟨k, hk, hlast, hstop⟩ := h.failed cause hrun
    exact Or.inr ⟨k, hk, hlast, cause, hstop⟩

theorem contiguous_done (s : Source) (turns : List Turn) (offset : Nat) :
    (ReadRun.mk (.ok []) []).Contiguous s turns offset 0 where
  placed := nofun
  obtained_eq := by simp [obtained, Source.window]
  length_le := Nat.le_refl 0
  succeeds b := by
    constructor
    · intro h
      exact ⟨(Except.ok.inj h).symm, congrArg List.length (Except.ok.inj h).symm⟩
    · rintro ⟨rfl, -⟩
      rfl
  stops := nofun
  failed := nofun

theorem contiguous_stopped (call : ReadCall) {cause : Fault} (hpos : 0 < call.count)
    (h : (Turn.ofRead turns 0 call).Stops s call cause) :
    (ReadRun.mk (.error cause) [call]).Contiguous s turns call.offset.toNat call.count := by
  have hnone : obtained s turns [call] = [] := by rw [obtained, h.brings_eq]; rfl
  refine ⟨?placed, ?window, ?length, ?succeeds, ?stops, ?failed⟩
  case placed =>
    intro k hk
    obtain rfl : k = 0 := Nat.lt_one_iff.mp hk
    exact ⟨rfl, rfl, hpos⟩
  case window => simp [hnone, Source.window]
  case length => simp [hnone]
  case succeeds =>
    intro b
    constructor
    · intro hok
      cases hok
    · rintro ⟨hb, hlength⟩
      rw [hb, hnone] at hlength
      exact absurd hlength (Nat.ne_of_lt hpos)
  case stops =>
    intro k hk other hother
    obtain rfl : k = 0 := Nat.lt_one_iff.mp hk
    exact ⟨congrArg Except.error (h.cause_unique hother), rfl⟩
  case failed =>
    intro other hother
    cases hother
    exact ⟨0, Nat.one_pos, rfl, h⟩

theorem Contiguous.after {run : ReadRun} {call : ReadCall} {chunk : Bytes}
    (h : run.Contiguous s turns.tail (call.offset.toNat + chunk.length)
      (call.count - chunk.length))
    (hchunk : (Turn.ofRead turns 0 call).brings s call = chunk)
    (hgoes : ∀ cause, ¬ (Turn.ofRead turns 0 call).Stops s call cause) (hpos : 0 < call.count) :
    (run.after call chunk).Contiguous s turns call.offset.toNat call.count := by
  obtain ⟨hplaced, hobtained, hlength, hsucceeds, hstops, hfailed⟩ := h
  have hle : chunk.length ≤ call.count := hchunk ▸ Turn.length_brings_le _
  have htake : ∀ calls, obtained s turns (call :: calls) =
      chunk ++ obtained s turns.tail calls := fun calls => by rw [obtained, hchunk]
  refine ⟨?placed, ?window, ?length, ?succeeds, ?stops, ?failed⟩
  case placed =>
    intro k hk
    cases k with
    | zero => exact ⟨rfl, rfl, hpos⟩
    | succ k =>
      obtain ⟨hoffset, hcount, hask⟩ := hplaced k (Nat.lt_of_succ_lt_succ hk)
      simp only [ReadRun.after, List.getElem_cons_succ, List.take_succ_cons, htake,
        List.length_append]
      omega
  case window =>
    simp only [ReadRun.after, htake, List.length_append]
    by_cases hnone : chunk = []
    · simpa [hnone] using hobtained
    · have hread : chunk = s.window call.offset.toNat chunk.length :=
        hchunk ▸ Turn.brings_eq_window _
      -- A byte was read, so the call lies inside the source.
      have hinside : call.offset.toNat + chunk.length ≤ s.size := by
        have hbytes := congrArg List.length hread
        have hsome := List.length_pos_iff.mpr hnone
        rw [Source.length_window] at hbytes
        omega
      rw [← s.window_append _ _ _ hinside, ← hread, ← hobtained]
  case length =>
    simp only [ReadRun.after, htake, List.length_append]
    omega
  case succeeds =>
    intro b
    simp only [ReadRun.after, htake]
    constructor
    · intro hb
      cases hrest : run.outcome with
      | error cause => simp [hrest, Except.map] at hb
      | ok rest =>
        obtain ⟨hbytes, hall⟩ := (hsucceeds rest).mp hrest
        rw [hrest] at hb
        obtain rfl := Except.ok.inj hb
        refine ⟨congrArg (chunk ++ ·) hbytes, ?_⟩
        rw [List.length_append, hall]
        omega
    · rintro ⟨rfl, hall⟩
      rw [List.length_append] at hall
      have hrest := (hsucceeds (obtained s turns.tail run.calls)).mpr ⟨rfl, by omega⟩
      rw [hrest]
      rfl
  case stops =>
    intro k hk cause hstop
    cases k with
    | zero => exact absurd hstop (hgoes cause)
    | succ k =>
      rw [Turn.ofRead_succ] at hstop
      obtain ⟨houtcome, hlast⟩ := hstops k (Nat.lt_of_succ_lt_succ hk) cause hstop
      refine ⟨?_, congrArg Nat.succ hlast⟩
      simp only [ReadRun.after, houtcome, Except.map]
  case failed =>
    intro cause hcause
    cases hrest : run.outcome with
    | ok rest => simp [ReadRun.after, hrest, Except.map] at hcause
    | error found =>
      simp only [ReadRun.after, hrest, Except.map] at hcause
      obtain rfl := Except.error.inj hcause
      obtain ⟨k, hk, hlast, hstop⟩ := hfailed found hrest
      refine ⟨k + 1, Nat.succ_lt_succ hk, congrArg Nat.succ hlast, ?_⟩
      rw [Turn.ofRead_succ]
      exact hstop

end ReadRun

namespace Source

theorem toNat_add_ofNat {offset : UInt64} {n : Nat} (h : offset.toNat + n < 2 ^ 64) :
    (offset + UInt64.ofNat n).toNat = offset.toNat + n := by
  rw [UInt64.toNat_add, UInt64.toNat_ofNat_of_lt' (by simp only [UInt64.size]; omega)]
  exact Nat.mod_eq_of_lt h

private theorem contiguous_readFreely (s : Source) (offset : UInt64) (count : Nat)
    (hword : offset.toNat + count < 2 ^ 64) :
    (s.readFreely offset count).Contiguous s [] offset.toNat count := by
  by_cases hcount : count = 0
  · subst hcount
    exact ReadRun.contiguous_done s [] _
  have hpos : 0 < count := Nat.pos_of_ne_zero hcount
  obtain ⟨chunk, hchunk⟩ : ∃ chunk, s.window offset.toNat count = chunk := ⟨_, rfl⟩
  have hbrings : (Turn.ofRead [] 0 ⟨offset, count⟩).brings s ⟨offset, count⟩ = chunk := by
    simp [Turn.ofRead, Turn.brings, hchunk]
  by_cases hnone : chunk = []
  · have hrun : s.readFreely offset count = ⟨.error Fault.shortRead, [⟨offset, count⟩]⟩ := by
      simp [readFreely, hchunk, hnone, hcount]
    rw [hrun]
    exact ReadRun.contiguous_stopped ⟨offset, count⟩ hpos ⟨hbrings.trans hnone, rfl⟩
  have hgoes : ∀ cause, ¬ (Turn.ofRead [] 0 ⟨offset, count⟩).Stops s ⟨offset, count⟩ cause :=
    fun cause hstop => hnone (hbrings.symm.trans hstop.brings_eq)
  have hlength : chunk.length = min count (s.size - offset.toNat) := by
    rw [← hchunk, length_window]
  by_cases hmissing : count - chunk.length = 0
  · have hrun : s.readFreely offset count =
        (ReadRun.mk (.ok []) []).after ⟨offset, count⟩ chunk := by
      simp [readFreely, hchunk, hcount, hmissing, ReadRun.after, Except.map]
    have hdone := ReadRun.contiguous_done s [] (offset.toNat + chunk.length)
    rw [← hmissing] at hdone
    rw [hrun]
    exact hdone.after hbrings hgoes hpos
  · have hnext : (offset + UInt64.ofNat chunk.length).toNat = offset.toNat + chunk.length :=
      toNat_add_ofNat (by omega)
    have hrun : s.readFreely offset count = (ReadRun.mk (.error Fault.shortRead)
        [⟨offset + UInt64.ofNat chunk.length, count - chunk.length⟩]).after
          ⟨offset, count⟩ chunk := by
      simp [readFreely, hchunk, hcount, hmissing, hnone, ReadRun.after, Except.map]
    -- The source ends where the first call has read to.
    have hempty : s.window (offset.toNat + chunk.length) (count - chunk.length) = [] := by
      rw [← List.length_eq_zero_iff, length_window]
      omega
    obtain ⟨call, hcall⟩ : ∃ call : ReadCall,
      call = ⟨offset + UInt64.ofNat chunk.length, count - chunk.length⟩ := ⟨_, rfl⟩
    have hstop : (Turn.ofRead [] 0 call).Stops s call Fault.shortRead :=
      ⟨by simpa [Turn.brings, hcall, hnext] using hempty, rfl⟩
    have hstopped := ReadRun.contiguous_stopped call
      (by rw [hcall]; exact Nat.pos_of_ne_zero hmissing) hstop
    simp only [hcall, hnext] at hstopped
    rw [hrun]
    exact hstopped.after hbrings hgoes hpos

/-- Whatever the source makes of its calls, a read goes on behind the bytes it has. -/
theorem contiguous_readExact (s : Source) (turns : List Turn) (offset : UInt64) (count : Nat)
    (hword : offset.toNat + count < 2 ^ 64) :
    (s.readExact turns offset count).Contiguous s turns offset.toNat count := by
  induction turns generalizing offset count with
  | nil => exact contiguous_readFreely s offset count hword
  | cons turn turns ih =>
    by_cases hcount : count = 0
    · subst hcount
      simpa [readExact] using ReadRun.contiguous_done s (turn :: turns) offset.toNat
    have hpos : 0 < count := Nat.pos_of_ne_zero hcount
    have hturn : Turn.ofRead (turn :: turns) 0 ⟨offset, count⟩ = turn := rfl
    cases turn with
    | fault cause =>
      cases hretry : cause.isInterrupted with
      | true =>
        simp only [readExact, hcount, if_false, hretry, if_true]
        refine (ih offset count hword).after rfl ?_ hpos
        rintro found ⟨rfl, hfinal⟩
        exact absurd (hfinal.symm.trans hretry) Bool.false_ne_true
      | false =>
        simp only [readExact, hcount, if_false, hretry, Bool.false_eq_true]
        exact ReadRun.contiguous_stopped ⟨offset, count⟩ hpos ⟨rfl, hretry⟩
    | limit most =>
      obtain ⟨chunk, hchunk⟩ : ∃ chunk, s.window offset.toNat (min most count) = chunk := ⟨_, rfl⟩
      by_cases hnone : chunk = []
      · simp only [readExact, hcount, if_false, hchunk, hnone, List.isEmpty_nil, if_true]
        exact ReadRun.contiguous_stopped ⟨offset, count⟩ hpos ⟨hchunk.trans hnone, rfl⟩
      · have hlength : chunk.length ≤ count := by
          rw [← hchunk, length_window]
          omega
        have hnext : (offset + UInt64.ofNat chunk.length).toNat = offset.toNat + chunk.length :=
          toNat_add_ofNat (by omega)
        have hrest := ih (offset + UInt64.ofNat chunk.length) (count - chunk.length)
          (by rw [hnext]; omega)
        rw [hnext] at hrest
        simp only [readExact, hcount, if_false, hchunk, List.isEmpty_iff, hnone]
        exact hrest.after hchunk (fun _ hstop => hnone (hchunk.symm.trans hstop.brings_eq)) hpos

theorem exists_error_of_short (s : Source) (turns : List Turn) (offset : UInt64) (count : Nat)
    (hword : offset.toNat + count < 2 ^ 64) (hpos : 0 < count)
    (hshort : s.size < offset.toNat + count) :
    ∃ cause, (s.readExact turns offset count).outcome = .error cause := by
  have hrun := s.contiguous_readExact turns offset count hword
  cases houtcome : (s.readExact turns offset count).outcome with
  | error cause => exact ⟨cause, rfl⟩
  | ok b =>
    obtain ⟨hb, hlength⟩ := (hrun.succeeds b).mp houtcome
    have hwindow := congrArg List.length hrun.obtained_eq
    rw [length_window, ← hb, hlength] at hwindow
    omega

/-- If the calls are only delayed, a read that fails has come to the end of the source. -/
theorem error_of_onlyDelays (s : Source) {turns : List Turn} {offset : UInt64} {count : Nat}
    (hword : offset.toNat + count < 2 ^ 64) (hturns : ∀ t ∈ turns, t.OnlyDelays) {cause : Fault}
    (h : (s.readExact turns offset count).outcome = .error cause) : cause = Fault.shortRead := by
  obtain ⟨k, hk, -, hstop⟩ :=
    (s.contiguous_readExact turns offset count hword).failed cause h
  rw [Turn.ofRead] at hstop
  cases hscript : turns[k]? with
  | some turn =>
    rw [hscript] at hstop
    exact hstop.cause_of_onlyDelays (hturns turn (List.mem_of_getElem? hscript))
  | none =>
    rw [hscript] at hstop
    exact hstop.2

/-- Delays show neither in what a read brings nor in how it fails. -/
theorem outcome_readExact_of_onlyDelays (s : Source) {turns : List Turn} {offset : UInt64}
    {count : Nat} (hword : offset.toNat + count < 2 ^ 64) (hpos : 0 < count)
    (hturns : ∀ t ∈ turns, t.OnlyDelays) :
    (s.readExact turns offset count).outcome = (s.readExact [] offset count).outcome := by
  have hfree : ∀ t ∈ ([] : List Turn), t.OnlyDelays := nofun
  by_cases hsize : offset.toNat + count ≤ s.size
  · rw [outcome_readExact s turns offset count hturns hsize hword,
      outcome_readExact s [] offset count hfree hsize hword]
  · have hshort : s.size < offset.toNat + count := Nat.lt_of_not_le hsize
    obtain ⟨cause, hcause⟩ := s.exists_error_of_short turns offset count hword hpos hshort
    obtain ⟨other, hother⟩ := s.exists_error_of_short [] offset count hword hpos hshort
    rw [hcause, hother, s.error_of_onlyDelays hword hturns hcause,
      s.error_of_onlyDelays hword hfree hother]

/-- Two sources hold the same bytes from one offset up to another one. -/
structure Agree (s s' : Source) (first last : Nat) : Prop where
  inside : last ≤ s.size
  inside' : last ≤ s'.size
  byteAt_eq : ∀ i, first ≤ i → i < last → s.byteAt i = s'.byteAt i

theorem agree_truncate {s : Source} {last : Nat} (first : Nat) (h : last ≤ s.size) :
    (s.truncate last).Agree s first last where
  inside := Nat.le_min.mpr ⟨Nat.le_refl last, h⟩
  inside' := h
  byteAt_eq _ _ _ := rfl

variable {s s' : Source} {first last : Nat}

theorem Agree.window_eq (h : s.Agree s' first last) (offset count : Nat) (hfirst : first ≤ offset)
    (hlast : offset + count ≤ last) : s.window offset count = s'.window offset count := by
  have hinside := h.inside
  have hinside' := h.inside'
  have hcount : min count (s.size - offset) = count := by omega
  have hcount' : min count (s'.size - offset) = count := by omega
  rw [window, window, hcount, hcount']
  apply List.map_congr_left
  intro i hi
  have hin := List.mem_range.mp hi
  exact h.byteAt_eq _ (by omega) (by omega)

private theorem Agree.readFreely_eq (h : s.Agree s' first last) {offset : UInt64} {count : Nat}
    (hfirst : first ≤ offset.toNat) (hlast : offset.toNat + count ≤ last) :
    s.readFreely offset count = s'.readFreely offset count := by
  rw [readFreely, readFreely, h.window_eq offset.toNat count hfirst hlast]

theorem Agree.readExact_eq (h : s.Agree s' first last) (turns : List Turn) (offset : UInt64)
    (count : Nat) (hfirst : first ≤ offset.toNat) (hlast : offset.toNat + count ≤ last)
    (hword : offset.toNat + count < 2 ^ 64) :
    s.readExact turns offset count = s'.readExact turns offset count := by
  induction turns generalizing offset count with
  | nil => exact h.readFreely_eq hfirst hlast
  | cons turn turns ih =>
    cases turn with
    | fault cause => rw [readExact, readExact, ih offset count hfirst hlast hword]
    | limit most =>
      have hwindow := h.window_eq offset.toNat (min most count) hfirst (by omega)
      obtain ⟨chunk, hchunk⟩ : ∃ chunk, s'.window offset.toNat (min most count) = chunk := ⟨_, rfl⟩
      have hlength : chunk.length ≤ count := by
        rw [← hchunk, length_window]
        omega
      have hnext : (offset + UInt64.ofNat chunk.length).toNat = offset.toNat + chunk.length :=
        toNat_add_ofNat (by omega)
      have hrest := ih (offset + UInt64.ofNat chunk.length) (count - chunk.length)
        (by rw [hnext]; omega) (by rw [hnext]; omega) (by rw [hnext]; omega)
      simp only [readExact, hwindow, hchunk, hrest]

end Source

end BootMedia
