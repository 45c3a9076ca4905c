import BootMedia.Vhd.Append
import BootMedia.Proofs.Transfer.Delivery

/-!
What an append that fails leaves of an image. The footer goes behind the contents in as many calls
as the sink asks for, and nothing that was accepted is taken back. Main statements: the remnant is
a beginning of the one footer, the image is as before if and only if the end is not found or the
first write is refused, and a write can be cut at every length.
-/
namespace BootMedia

/-- An image as a sink: its end, unless that is not found, is behind its contents. -/
def Sink.ofImage (contents : Bytes) (seekFault : Option Fault) (turns : List Turn)
    (flushFault : Option Fault) : Sink :=
  ⟨(seekFault.map Except.error).getD (.ok (UInt64.ofNat contents.length)), turns, flushFault⟩

def AppendRun.imageAfter (run : AppendRun) (contents : Bytes) : Bytes := contents ++ run.accepted

theorem appendFooter_opened (path : PathText) (contents : Bytes) (stamp : Stamp)
    (tags : CreatorTags) :
    appendFooter path (.ok contents) stamp tags =
      (writeFooter (.ofImage contents none [] none) stamp tags,
        some ((writeFooter (.ofImage contents none [] none) stamp tags).imageAfter contents)) :=
  rfl

theorem AppendRun.imageAfter_eq_iff (run : AppendRun) (contents : Bytes) :
    run.imageAfter contents = contents ↔ run.accepted = [] := List.append_right_eq_self

theorem Footer.bytes_encode_ne_nil (f : Footer) : f.encode.bytes ≠ [] := by
  apply List.ne_nil_of_length_pos
  rw [Block.length_eq]
  decide

/-- What an append to a sink leaves when it fails for a reason. -/
inductive Remnant (sink : Sink) (stamp : Stamp) (tags : CreatorTags) : AppendError → Bytes → Prop
  | noEnd {cause : Fault} (hsize : sink.size = .error cause) :
      Remnant sink stamp tags (.noEnd cause) []
  | torn {size : UInt64} {cause : Fault} {torn : Bytes} (hsize : sink.size = .ok size)
      (hbegins : torn <+: (stamp.footer size tags).encode.bytes)
      (hlength : torn.length < Footer.size) : Remnant sink stamp tags (.notWritten cause) torn
  | unflushed {size : UInt64} {cause : Fault} (hsize : sink.size = .ok size)
      (hflush : sink.flushFault = some cause) :
      Remnant sink stamp tags (.notWritten cause) (stamp.footer size tags).encode.bytes

theorem remnant_writeFooter {sink : Sink} {stamp : Stamp} {tags : CreatorTags}
    {reason : AppendError} (h : (writeFooter sink stamp tags).outcome = .error reason) :
    Remnant sink stamp tags reason (writeFooter sink stamp tags).accepted := by
  cases hsize : sink.size with
  | error cause =>
    simp only [writeFooter, hsize] at h ⊢
    obtain rfl := Except.error.inj h
    exact .noEnd hsize
  | ok size =>
    cases hwrite : (writeAll sink.turns (stamp.footer size tags).encode.bytes).outcome with
    | error cause =>
      have hbegins := Writing.isPrefix_accepted sink.turns (stamp.footer size tags).encode.bytes
      have hlength := Writing.length_accepted_lt hwrite
      rw [Block.length_eq] at hlength
      simp only [writeFooter, hsize, hwrite] at h ⊢
      obtain rfl := Except.error.inj h
      exact .torn hsize hbegins hlength
    | ok done =>
      have hwhole := (Writing.outcome_ok_iff _ _).mp hwrite
      cases hflush : sink.flushFault with
      | none => simp [writeFooter, hsize, hwrite, hflush] at h
      | some cause =>
        simp only [writeFooter, hsize, hwrite, hflush, hwhole] at h ⊢
        obtain rfl := Except.error.inj h
        exact .unflushed hsize hflush

theorem accepted_writeFooter_eq_nil_iff (sink : Sink) (stamp : Stamp) (tags : CreatorTags) :
    (writeFooter sink stamp tags).accepted = [] ↔
      (∃ cause, sink.size = .error cause) ∨ refusedAtOnce sink.turns = true := by
  cases hsize : sink.size with
  | error cause => simp [writeFooter, hsize]
  | ok size =>
    have hnone := Writing.accepted_eq_nil_iff sink.turns
      (stamp.footer size tags).bytes_encode_ne_nil
    cases hwrite : (writeAll sink.turns (stamp.footer size tags).encode.bytes).outcome with
    | error cause => simpa [writeFooter, hsize, hwrite] using hnone
    | ok done =>
      cases hflush : sink.flushFault with
      | none => simpa [writeFooter, hsize, hwrite, hflush] using hnone
      | some cause => simpa [writeFooter, hsize, hwrite, hflush] using hnone

/-- A write that is cut leaves as many bytes of the footer as were taken. -/
theorem writeFooter_cut (contents : Bytes) {cause : Fault} (hcause : cause.isInterrupted = false)
    {count : Nat} (hpos : 0 < count) (hcount : count < Footer.size) (flushFault : Option Fault)
    (stamp : Stamp) (tags : CreatorTags) :
    let footer := stamp.footer (UInt64.ofNat contents.length) tags
    let sink := Sink.ofImage contents none [.limit count, .fault cause] flushFault
    let run := writeFooter sink stamp tags
    run.outcome = .error (.notWritten cause) ∧
      run.imageAfter contents = contents ++ footer.encode.bytes.take count := by
  intro footer sink run
  have hfooter := footer.bytes_encode_ne_nil
  have hrest : footer.encode.bytes.drop count ≠ [] := by
    apply List.ne_nil_of_length_pos
    rw [List.length_drop, Block.length_eq]
    exact Nat.sub_pos_of_lt hcount
  have hmost : count ≠ 0 := Nat.pos_iff_ne_zero.mp hpos
  have hwrite : writeAll [.limit count, .fault cause] footer.encode.bytes =
      ⟨.error cause, [footer.encode.bytes, footer.encode.bytes.drop count],
        footer.encode.bytes.take count⟩ := by
    simp [writeAll, List.isEmpty_iff, hfooter, hrest, hmost, hcause, WriteRun.after]
  simp [run, sink, footer, writeFooter, Sink.ofImage, hwrite, AppendRun.imageAfter]

/-- An image to which no footer could be appended. Nothing before its end has changed; what is
behind it is a beginning of the footer, and the image is as before if and only if the end was not
found or the first write was refused. -/
theorem failed_append_remnant (contents : Bytes) (seekFault : Option Fault) (turns : List Turn)
    (flushFault : Option Fault) (stamp : Stamp) (tags : CreatorTags) (reason : AppendError)
    (h : (writeFooter (.ofImage contents seekFault turns flushFault) stamp tags).outcome =
      .error reason) :
    let sink := Sink.ofImage contents seekFault turns flushFault
    let image := (writeFooter sink stamp tags).imageAfter contents
    (∃ remnant, image = contents ++ remnant ∧ Remnant sink stamp tags reason remnant) ∧
      (image = contents ↔ seekFault.isSome = true ∨ refusedAtOnce turns = true) := by
  intro sink image
  refine ⟨⟨_, rfl, remnant_writeFooter h⟩, ?_⟩
  have hend : (∃ cause, sink.size = .error cause) ↔ seekFault.isSome = true := by
    cases seekFault <;> simp [sink, Sink.ofImage]
  rw [AppendRun.imageAfter_eq_iff, accepted_writeFooter_eq_nil_iff, hend]
  rfl

/-- The disk is full after 100 bytes of a footer. -/
theorem failed_append_remnant_full_disk :
    let contents : Bytes := List.replicate 65536 0
    let run := writeFooter (.ofImage contents none [.limit 100, .fault (.system 28)] none)
      ⟨0, Block.zero 16⟩ Footer.defaultTags
    run.outcome = .error (.notWritten (.system 28)) ∧ run.imageAfter contents ≠ contents := by
  intro contents run
  have hfails : run.outcome = .error (.notWritten (.system 28)) :=
    (writeFooter_cut contents rfl (by decide) (by decide) none ⟨0, Block.zero 16⟩
      Footer.defaultTags).1
  refine ⟨hfails, fun hsame => ?_⟩
  have hnone := (failed_append_remnant _ _ _ _ _ _ _ hfails).2.mp hsame
  simp [refusedAtOnce] at hnone

/-- Not every append that fails leaves the image as it was. -/
theorem failed_append_may_tear :
    ¬ ∀ (contents : Bytes) (seekFault : Option Fault) (turns : List Turn)
        (flushFault : Option Fault) (stamp : Stamp) (tags : CreatorTags) (reason : AppendError),
      (writeFooter (.ofImage contents seekFault turns flushFault) stamp tags).outcome =
        .error reason →
      (writeFooter (.ofImage contents seekFault turns flushFault) stamp tags).imageAfter contents =
        contents := by
  intro hclaim
  have hfull : (Fault.system 28).isInterrupted = false := rfl
  obtain ⟨hfails, htorn⟩ := writeFooter_cut (List.replicate 65536 0) hfull
    (by decide : 0 < 100) (by decide) none ⟨0, Block.zero 16⟩ Footer.defaultTags
  have hsame := hclaim _ _ _ _ _ _ _ hfails
  rw [htorn, List.append_right_eq_self, List.take_eq_nil_iff] at hsame
  rcases hsame with hzero | hnil
  · nomatch hzero
  · exact Footer.bytes_encode_ne_nil _ hnil

end BootMedia
