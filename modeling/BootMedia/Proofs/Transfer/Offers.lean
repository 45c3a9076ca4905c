import BootMedia.Proofs.Transfer.Delivery

/-!
A write as the sink sees it: buffers that are offered one after the other, and what each call takes
of them. Main statements: every call offers exactly what has not been taken so far; another call
follows if and only if one was interrupted or took a part; and a write that fails does so in its
last call, for a reason that is no interruption.
-/
namespace BootMedia

namespace Turn

/-- What a call that goes this way takes of the buffer it offers. -/
def taken (offered : Bytes) : Turn → Bytes
  | limit most => offered.take most
  | fault _ => []

/-- The call was interrupted, or took a part of the buffer but not all of it. -/
def LeavesMore (offered : Bytes) : Turn → Prop
  | limit most => 0 < most ∧ most < offered.length
  | fault cause => cause.isInterrupted = true

/-- The call takes nothing, and is not one to be tried again. -/
def Refuses (cause : Fault) : Turn → Prop
  | limit most => most = 0 ∧ cause = Fault.shortWrite
  | fault found => found = cause ∧ cause.isInterrupted = false

/-- How a call goes, counted from zero; behind the end of its script it is served in full. -/
def ofCall (turns : List Turn) (k : Nat) (offered : Bytes) : Turn :=
  turns[k]?.getD (limit offered.length)

theorem Refuses.not_interrupted {t : Turn} {cause : Fault} (h : t.Refuses cause) :
    cause.isInterrupted = false := by
  cases t with
  | limit most =>
    rw [h.2]
    rfl
  | fault found => exact h.2

theorem not_leavesMore_served (offered : Bytes) :
    ¬ (limit offered.length).LeavesMore offered := fun h => Nat.lt_irrefl _ h.2

theorem taken_served (offered : Bytes) : (limit offered.length).taken offered = offered :=
  List.take_length

theorem Refuses.not_leavesMore {t : Turn} {cause : Fault} (h : t.Refuses cause)
    (offered : Bytes) : ¬ t.LeavesMore offered := by
  cases t with
  | limit most => exact fun hmore => Nat.ne_of_gt hmore.1 h.1
  | fault found =>
    obtain ⟨rfl, hfinal⟩ := h
    exact fun hretry => Bool.noConfusion (hfinal.symm.trans hretry)

theorem leavesMore_or_refuses_or_taken (t : Turn) (offered : Bytes) :
    t.LeavesMore offered ∨ (∃ cause, t.Refuses cause) ∨
      t.taken offered = offered ∧ ¬ t.LeavesMore offered := by
  cases t with
  | fault cause =>
    cases hretry : cause.isInterrupted with
    | true => exact .inl hretry
    | false => exact .inr (.inl ⟨cause, rfl, hretry⟩)
  | limit most =>
    by_cases hzero : most = 0
    · exact .inr (.inl ⟨Fault.shortWrite, hzero, rfl⟩)
    · by_cases hpart : most < offered.length
      · exact .inl ⟨Nat.pos_of_ne_zero hzero, hpart⟩
      · exact .inr (.inr ⟨List.take_of_length_le (Nat.le_of_not_lt hpart), fun h => hpart h.2⟩)

end Turn

def received (turns : List Turn) : List Bytes → Bytes
  | [] => []
  | offered :: offers => (Turn.ofCall turns 0 offered).taken offered ++ received turns.tail offers

/-- The buffers that are offered in writing one buffer. -/
structure OffersInOrder (turns : List Turn) (buffer : Bytes) (offers : List Bytes) : Prop where
  begins : offers = [] ↔ buffer = []
  nonempty : ∀ offered ∈ offers, offered ≠ []
  pending : ∀ k (h : k < offers.length), received turns (offers.take k) ++ offers[k] = buffer
  goesOn : ∀ k (h : k < offers.length),
    k + 1 < offers.length ↔ (Turn.ofCall turns k offers[k]).LeavesMore offers[k]

def EndsRefused (turns : List Turn) (offers : List Bytes) (cause : Fault) : Prop :=
  ∃ k, ∃ h : k < offers.length, k + 1 = offers.length ∧
    (Turn.ofCall turns k offers[k]).Refuses cause

/-- A write whose calls are in order, with what came of it. -/
structure WriteRun.Orderly (run : WriteRun) (turns : List Turn) (buffer : Bytes) : Prop where
  offers : OffersInOrder turns buffer run.offers
  accepted_eq : run.accepted = received turns run.offers
  refused : ∀ cause, run.outcome = .error cause → EndsRefused turns run.offers cause

namespace WriteRun

variable {turns : List Turn} {buffer : Bytes}

theorem orderly_nil (turns : List Turn) : (WriteRun.mk (.ok ()) [] []).Orderly turns [] :=
  ⟨⟨by simp, by simp, by simp, by simp⟩, rfl, nofun⟩

theorem orderly_single (turns : List Turn) (hbuffer : buffer ≠ []) (outcome : Except Fault Unit)
    (hlast : ¬ (Turn.ofCall turns 0 buffer).LeavesMore buffer)
    (hrefused : ∀ cause, outcome = .error cause → (Turn.ofCall turns 0 buffer).Refuses cause) :
    (WriteRun.mk outcome [buffer] ((Turn.ofCall turns 0 buffer).taken buffer)).Orderly turns
      buffer := by
  refine ⟨⟨by simp [hbuffer], by simpa using hbuffer, ?pending, ?goesOn⟩, ?accepted, ?refused⟩
  case pending =>
    intro k hk
    obtain rfl : k = 0 := Nat.lt_one_iff.mp hk
    rfl
  case goesOn =>
    intro k hk
    obtain rfl : k = 0 := Nat.lt_one_iff.mp hk
    exact ⟨fun h => absurd h (Nat.lt_irrefl 1), fun h => absurd h hlast⟩
  case accepted => simp [received]
  case refused => exact fun cause houtcome => ⟨0, Nat.one_pos, rfl, hrefused cause houtcome⟩

theorem Orderly.after {run : WriteRun} {turn : Turn} {left : Bytes} (h : run.Orderly turns left)
    (hbuffer : turn.taken buffer ++ left = buffer) (hleft : left ≠ [])
    (hmore : turn.LeavesMore buffer) :
    (run.after buffer (turn.taken buffer)).Orderly (turn :: turns) buffer := by
  obtain ⟨⟨hbegins, hnonempty, hpending, hgoesOn⟩, haccepted, hrefused⟩ := h
  have hsome : 0 < run.offers.length := List.length_pos_iff.mpr fun h => hleft (hbegins.mp h)
  have hne : buffer ≠ [] := by
    intro hnil
    rw [hnil] at hbuffer
    exact hleft (List.append_eq_nil_iff.mp hbuffer).2
  refine ⟨⟨by simp [WriteRun.after, hne], ?nonempty, ?pending, ?goesOn⟩, ?accepted, ?refused⟩
  case nonempty =>
    intro offered hmem
    rcases List.mem_cons.mp hmem with rfl | hlater
    · exact hne
    · exact hnonempty offered hlater
  case pending =>
    intro k hk
    cases k with
    | zero => rfl
    | succ k =>
      have hnext := hpending k (Nat.lt_of_succ_lt_succ hk)
      simpa [WriteRun.after, received, Turn.ofCall, hnext] using hbuffer
  case goesOn =>
    intro k hk
    cases k with
    | zero => exact ⟨fun _ => hmore, fun _ => Nat.succ_lt_succ hsome⟩
    | succ k =>
      have hnext := hgoesOn k (Nat.lt_of_succ_lt_succ hk)
      simpa [WriteRun.after, Turn.ofCall] using hnext
  case accepted =>
    simp [WriteRun.after, received, Turn.ofCall, haccepted]
  case refused =>
    intro cause houtcome
    obtain ⟨k, hk, hlast, hturn⟩ := hrefused cause houtcome
    exact ⟨k + 1, Nat.succ_lt_succ hk, congrArg Nat.succ hlast, hturn⟩

end WriteRun

section Calls

variable {turn : Turn} {buffer : Bytes} (turns : List Turn)

theorem writeAll_of_refuses {cause : Fault} (hbuffer : buffer ≠ []) (h : turn.Refuses cause) :
    writeAll (turn :: turns) buffer = ⟨.error cause, [buffer], turn.taken buffer⟩ := by
  cases turn with
  | limit most =>
    obtain ⟨rfl, rfl⟩ := h
    simp [writeAll, List.isEmpty_iff, hbuffer, Turn.taken]
  | fault found =>
    obtain ⟨rfl, hfinal⟩ := h
    simp [writeAll, List.isEmpty_iff, hbuffer, hfinal, Turn.taken]

theorem writeAll_of_taken (hbuffer : buffer ≠ []) (hall : turn.taken buffer = buffer)
    (hlast : ¬ turn.LeavesMore buffer) :
    writeAll (turn :: turns) buffer = ⟨.ok (), [buffer], turn.taken buffer⟩ := by
  cases turn with
  | fault cause => exact absurd hall.symm hbuffer
  | limit most =>
    have hlength : buffer.length ≤ most := (List.take_eq_self_iff buffer).mp hall
    have hzero : most ≠ 0 := by
      have := List.length_pos_iff.mpr hbuffer
      omega
    have hnone : buffer.drop most = [] := List.drop_eq_nil_iff.mpr hlength
    simp [writeAll, List.isEmpty_iff, hbuffer, hzero, hnone, Writing.writeAll_nil, WriteRun.after,
      Turn.taken]

theorem writeAll_of_leavesMore (hbuffer : buffer ≠ []) (hmore : turn.LeavesMore buffer) :
    ∃ left, left ≠ [] ∧ turn.taken buffer ++ left = buffer ∧
      writeAll (turn :: turns) buffer =
        (writeAll turns left).after buffer (turn.taken buffer) := by
  cases turn with
  | fault cause =>
    have hretry : cause.isInterrupted = true := hmore
    refine ⟨buffer, hbuffer, rfl, ?_⟩
    simp [writeAll, List.isEmpty_iff, hbuffer, hretry, Turn.taken]
  | limit most =>
    obtain ⟨hpos, hpart⟩ := hmore
    refine ⟨buffer.drop most, ?_, List.take_append_drop most buffer, ?_⟩
    · rw [Ne, List.drop_eq_nil_iff]
      omega
    · simp [writeAll, List.isEmpty_iff, hbuffer, Nat.pos_iff_ne_zero.mp hpos, Turn.taken]

end Calls

/-- Every write offers what is left, and goes on until nothing is left or a call is refused. -/
theorem orderly_writeAll (turns : List Turn) (buffer : Bytes) :
    (writeAll turns buffer).Orderly turns buffer := by
  by_cases hbuffer : buffer = []
  · rw [hbuffer, Writing.writeAll_nil]
    exact WriteRun.orderly_nil turns
  · induction turns generalizing buffer with
    | nil =>
      have hserved := WriteRun.orderly_single [] hbuffer (.ok ())
        (Turn.not_leavesMore_served buffer) nofun
      have hall : (Turn.ofCall [] 0 buffer).taken buffer = buffer := Turn.taken_served buffer
      rw [hall] at hserved
      simpa [writeAll, List.isEmpty_iff, hbuffer] using hserved
    | cons turn turns ih =>
      rcases turn.leavesMore_or_refuses_or_taken buffer with
        hmore | ⟨cause, hrefuses⟩ | ⟨hall, hlast⟩
      · obtain ⟨left, hleft, hjoin, hrun⟩ := writeAll_of_leavesMore turns hbuffer hmore
        rw [hrun]
        exact (ih left hleft).after hjoin hleft hmore
      · rw [writeAll_of_refuses turns hbuffer hrefuses]
        exact WriteRun.orderly_single (turn :: turns) hbuffer (.error cause)
          (hrefuses.not_leavesMore buffer) fun found hfound => Except.error.inj hfound ▸ hrefuses
      · rw [writeAll_of_taken turns hbuffer hall hlast]
        exact WriteRun.orderly_single (turn :: turns) hbuffer (.ok ()) hlast nofun

/-- An interrupted call and one that takes a part are each followed by another one. -/
example : (writeAll [.limit 2, .fault (.system 4), .limit 9] [1, 2, 3]).offers =
    [[1, 2, 3], [3], [3]] := rfl

namespace OffersInOrder

variable {turns : List Turn} {buffer : Bytes} {offers : List Bytes}

/-- What has been taken at any moment is a beginning of the buffer. -/
theorem received_prefix (h : OffersInOrder turns buffer offers)
    (hall : received turns offers <+: buffer) (k : Nat) :
    received turns (offers.take k) <+: buffer := by
  by_cases hk : k < offers.length
  · exact ⟨offers[k], h.pending k hk⟩
  · rwa [List.take_of_length_le (by omega)]

end OffersInOrder

end BootMedia
