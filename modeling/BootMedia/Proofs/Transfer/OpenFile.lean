import BootMedia.Proofs.Transfer.Chunking
import BootMedia.Proofs.Transfer.Offers

/-!
A file that is open for writing, with the position of its next write. Main statements: after the
position was moved to the end, writes do nothing but lengthen the file by what they take, wherever
the position was before; and a write that is only delayed is completed.
-/
namespace BootMedia

/-- The bytes of a file, and where the next write to it goes. -/
structure OpenFile where
  contents : Bytes
  position : Nat

namespace OpenFile

/-- Bytes that are written take the place of those at the position and lengthen the file behind its
end; a gap before the position is filled with zeros. -/
def write (f : OpenFile) (b : Bytes) : OpenFile :=
  if b.isEmpty then f
  else
    let gap := List.replicate (f.position - f.contents.length) 0
    ⟨(f.contents ++ gap).take f.position ++ b ++ f.contents.drop (f.position + b.length),
      f.position + b.length⟩

def afterCalls : List Turn → OpenFile → List SinkCall → OpenFile
  | _, f, [] => f
  | turns, f, .seekEnd :: calls => afterCalls turns ⟨f.contents, f.contents.length⟩ calls
  | turns, f, .write offered :: calls =>
    afterCalls turns.tail (f.write ((Turn.ofCall turns 0 offered).taken offered)) calls
  | turns, f, .flush :: calls => afterCalls turns f calls

theorem write_at_end (contents b : Bytes) :
    (OpenFile.mk contents contents.length).write b =
      ⟨contents ++ b, (contents ++ b).length⟩ := by
  cases b with
  | nil => simp [write]
  | cons x b => simp [write]

theorem afterCalls_writes (turns : List Turn) (contents : Bytes) (offers : List Bytes)
    (calls : List SinkCall) :
    afterCalls turns ⟨contents, contents.length⟩ (offers.map SinkCall.write ++ calls) =
      afterCalls (turns.drop offers.length)
        ⟨contents ++ received turns offers, (contents ++ received turns offers).length⟩ calls := by
  induction offers generalizing turns contents with
  | nil => simp [received]
  | cons offered offers ih =>
    have hdrop : turns.tail.drop offers.length = turns.drop (offered :: offers).length := by
      rw [List.length_cons, ← List.drop_one, List.drop_drop, Nat.add_comm]
    rw [List.map_cons, List.cons_append, afterCalls, write_at_end, ih, hdrop, received,
      List.append_assoc]

/-- What a file holds after a move to its end, writes, and perhaps a flush. -/
theorem contents_afterCalls (turns : List Turn) (f : OpenFile) (offers : List Bytes)
    (flushed : Bool) :
    (f.afterCalls turns (.seekEnd :: offers.map SinkCall.write ++
      if flushed then [.flush] else [])).contents = f.contents ++ received turns offers := by
  rw [List.cons_append, afterCalls, afterCalls_writes]
  cases flushed <;> rfl

end OpenFile

theorem Writing.outcome_of_onlyDelays {turns : List Turn} (hturns : ∀ t ∈ turns, t.OnlyDelays)
    (buffer : Bytes) : (writeAll turns buffer).outcome = .ok () := by
  have horderly := orderly_writeAll turns buffer
  cases houtcome : (writeAll turns buffer).outcome with
  | ok done => rfl
  | error cause =>
    obtain ⟨k, hk, -, hrefuses⟩ := horderly.refused cause houtcome
    have hsome := horderly.offers.nonempty _ (List.getElem_mem hk)
    rw [Turn.ofCall] at hrefuses
    cases hscript : turns[k]? with
    | none =>
      rw [hscript] at hrefuses
      exact absurd (List.length_eq_zero_iff.mp hrefuses.1) hsome
    | some turn =>
      have hdelays := hturns turn (List.mem_of_getElem? hscript)
      rw [hscript] at hrefuses
      cases turn with
      | limit most => exact absurd hrefuses.1 (Nat.ne_of_gt hdelays)
      | fault found =>
        obtain ⟨rfl, hfinal⟩ := hrefuses
        exact absurd (hfinal.symm.trans hdelays) Bool.false_ne_true

end BootMedia
