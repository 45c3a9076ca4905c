import BootMedia.Transfer.Writing
import Mathlib

/-!
What a sink holds after a buffer was written to it. Main statements: whatever the script, the
bytes accepted are a beginning of the buffer; all of them were accepted if and only if the write
succeeds, and none if and only if the first call that is not interrupted is refused.
-/
namespace BootMedia

/-- Whether the first call that is not interrupted takes nothing. -/
def refusedAtOnce : List Turn → Bool
  | [] => false
  | .fault cause :: turns => if cause.isInterrupted then refusedAtOnce turns else true
  | .limit most :: _ => most == 0

namespace Writing

theorem writeAll_nil (turns : List Turn) : writeAll turns [] = ⟨.ok (), [], []⟩ := by
  cases turns <;> rfl

/-- The bytes accepted and those that are left make up the buffer, and none are left if and only
if the write succeeds. -/
theorem exists_left (turns : List Turn) (buffer : Bytes) :
    ∃ left, (writeAll turns buffer).accepted ++ left = buffer ∧
      ((writeAll turns buffer).outcome = .ok () ↔ left = []) := by
  induction turns generalizing buffer with
  | nil => exact ⟨[], by cases buffer <;> simp [writeAll]⟩
  | cons turn turns ih =>
    cases buffer with
    | nil => exact ⟨[], by simp [writeAll_nil]⟩
    | cons b buffer =>
      cases turn with
      | fault cause =>
        cases hretry : cause.isInterrupted with
        | true => simpa [writeAll, hretry, WriteRun.after] using ih (b :: buffer)
        | false => exact ⟨b :: buffer, by simp [writeAll, hretry]⟩
      | limit most =>
        by_cases hmost : most = 0
        · exact ⟨b :: buffer, by simp [writeAll, hmost]⟩
        · -- What was taken lies before what is accepted of the rest.
          obtain ⟨left, hjoin, houtcome⟩ := ih ((b :: buffer).drop most)
          refine ⟨left, ?_, ?_⟩
          · simp [writeAll, hmost, WriteRun.after, hjoin]
          · simpa [writeAll, hmost, WriteRun.after] using houtcome

theorem isPrefix_accepted (turns : List Turn) (buffer : Bytes) :
    (writeAll turns buffer).accepted <+: buffer := by
  obtain ⟨left, hjoin, -⟩ := exists_left turns buffer
  exact ⟨left, hjoin⟩

theorem outcome_ok_iff (turns : List Turn) (buffer : Bytes) :
    (writeAll turns buffer).outcome = .ok () ↔ (writeAll turns buffer).accepted = buffer := by
  obtain ⟨left, hjoin, houtcome⟩ := exists_left turns buffer
  rw [houtcome, ← List.append_right_eq_self, hjoin, eq_comm]

theorem accepted_eq_nil_iff (turns : List Turn) {buffer : Bytes} (hbuffer : buffer ≠ []) :
    (writeAll turns buffer).accepted = [] ↔ refusedAtOnce turns = true := by
  obtain ⟨b, rest, rfl⟩ := List.exists_cons_of_ne_nil hbuffer
  induction turns with
  | nil => simp [writeAll, refusedAtOnce]
  | cons turn turns ih =>
    cases turn with
    | fault cause =>
      cases hretry : cause.isInterrupted with
      | true => simpa [writeAll, hretry, WriteRun.after, refusedAtOnce] using ih
      | false => simp [writeAll, hretry, refusedAtOnce]
    | limit most =>
      by_cases hmost : most = 0
      · simp [writeAll, hmost, refusedAtOnce]
      · simp [writeAll, hmost, WriteRun.after, refusedAtOnce]

theorem length_accepted_lt {turns : List Turn} {buffer : Bytes} {cause : Fault}
    (h : (writeAll turns buffer).outcome = .error cause) :
    (writeAll turns buffer).accepted.length < buffer.length := by
  have hbegins := isPrefix_accepted turns buffer
  apply Nat.lt_of_le_of_ne hbegins.length_le
  intro hlength
  rw [(outcome_ok_iff turns buffer).mpr (hbegins.eq_of_length hlength)] at h
  nomatch h

end Writing

end BootMedia
