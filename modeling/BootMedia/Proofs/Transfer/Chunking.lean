import BootMedia.Transfer.Reading
import Mathlib

/-!
A read may be split into any number of calls, and calls may be interrupted. Main statement: as
long as every scripted call makes progress or may be tried again, a read inside the source brings
the bytes of its window, whatever the script.
-/
namespace BootMedia

/-- A turn that only delays a transfer: some bytes move, or the call may be tried again. -/
def Turn.OnlyDelays : Turn → Prop
  | .limit count => 0 < count
  | .fault cause => cause.isInterrupted

instance : DecidablePred Turn.OnlyDelays
  | .limit count => inferInstanceAs (Decidable (0 < count))
  | .fault cause => inferInstanceAs (Decidable (cause.isInterrupted = true))

namespace Source

@[simp] theorem length_window (s : Source) (offset count : Nat) :
    (s.window offset count).length = min count (s.size - offset) := by
  simp [window]

theorem window_ofBytes (b : Bytes) (offset count : Nat) :
    (ofBytes b).window offset count = (b.drop offset).take count := by
  apply List.ext_getElem
  · simp [ofBytes]
  · intro i hi hi'
    have hin : offset + i < b.length := by
      simp only [List.length_take, List.length_drop] at hi'
      omega
    simp [window, ofBytes, hin]

theorem window_append (s : Source) (offset count more : Nat) (h : offset + count ≤ s.size) :
    s.window offset count ++ s.window (offset + count) more = s.window offset (count + more) := by
  have hcount : min count (s.size - offset) = count := by omega
  have hmore : min (count + more) (s.size - offset) =
      count + min more (s.size - (offset + count)) := by omega
  simp only [window, hcount, hmore, List.range_add, List.map_append, List.map_map]
  congr 2
  funext i
  simp [Nat.add_assoc]

private theorem outcome_readFreely (s : Source) (offset : UInt64) (count : Nat)
    (h : offset.toNat + count ≤ s.size) :
    (s.readFreely offset count).outcome = .ok (s.window offset.toNat count) := by
  have hlength : count - (s.window offset.toNat count).length = 0 := by
    rw [length_window]
    omega
  by_cases hcount : count = 0
  · subst hcount
    simp [readFreely, window]
  · simp only [readFreely, hcount, hlength, if_false, if_true]

/-- Delays do not show in what a read brings. -/
theorem outcome_readExact (s : Source) (turns : List Turn) (offset : UInt64) (count : Nat)
    (hturns : ∀ t ∈ turns, t.OnlyDelays) (hsize : offset.toNat + count ≤ s.size)
    (hword : offset.toNat + count < 2 ^ 64) :
    (s.readExact turns offset count).outcome = .ok (s.window offset.toNat count) := by
  induction turns generalizing offset count with
  | nil => exact outcome_readFreely s offset count hsize
  | cons turn turns ih =>
    have hrest : ∀ t ∈ turns, t.OnlyDelays := fun t ht => hturns t (List.mem_cons_of_mem turn ht)
    have hturn := hturns turn List.mem_cons_self
    by_cases hcount : count = 0
    · subst hcount
      simp [readExact, window]
    · cases turn with
      | fault cause =>
        have hretry : cause.isInterrupted = true := hturn
        have hagain := ih offset count hrest hsize hword
        simp [readExact, hcount, hretry, ReadRun.after, hagain, Except.map]
      | limit most =>
        have hmost : 0 < most := hturn
        -- The call brings `got` bytes, and the rest of the window lies behind them.
        obtain ⟨got, hgot⟩ : ∃ got, got = min most count := ⟨_, rfl⟩
        have hlength : (s.window offset.toNat got).length = got := by
          rw [length_window]
          omega
        have hnonempty : (s.window offset.toNat got).isEmpty = false := by
          apply List.isEmpty_eq_false_iff.mpr
          intro hnil
          rw [hnil, List.length_nil] at hlength
          omega
        have hnext : (offset + UInt64.ofNat got).toNat = offset.toNat + got := by
          rw [UInt64.toNat_add, UInt64.toNat_ofNat_of_lt' (by simp only [UInt64.size]; omega)]
          exact Nat.mod_eq_of_lt (by omega)
        have hbehind := ih (offset + UInt64.ofNat got) (count - got) hrest
          (by rw [hnext]; omega) (by rw [hnext]; omega)
        have hjoin := window_append s offset.toNat got (count - got) (by omega)
        rw [show got + (count - got) = count by omega] at hjoin
        simp only [readExact, hcount, if_false, ← hgot, hlength, hnonempty, ReadRun.after, hbehind,
          hnext, Except.map, hjoin]
        rfl

end Source

end BootMedia
