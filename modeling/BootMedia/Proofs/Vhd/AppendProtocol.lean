import BootMedia.Proofs.Transfer.Offers
import BootMedia.Proofs.Vhd.FailedAppend

/-!
The calls of an append, whatever the sink makes of them. Main statement: the sink is moved to its
end once, every write offers what has not been accepted of one footer, the sink is flushed exactly
when it has accepted all of it, and the append succeeds if and only if that works.
-/
namespace BootMedia

/-- How an append goes on once the end of the sink is found: what it offers, what is accepted of
that, and what it comes to. -/
structure AppendRun.Proceeds (run : AppendRun) (sink : Sink) (footer : Footer)
    (offers : List Bytes) : Prop where
  inOrder : OffersInOrder sink.turns footer.encode.bytes offers
  accepted_eq : run.accepted = received sink.turns offers
  accepted_prefix : ∀ k, received sink.turns (offers.take k) <+: footer.encode.bytes
  calls_eq : run.calls = .seekEnd :: offers.map SinkCall.write ++
    if run.accepted.length = Footer.size then [.flush] else []
  succeeds_iff : (∃ f, run.outcome = .ok f) ↔
    run.accepted.length = Footer.size ∧ sink.flushFault = none
  returned : ∀ f, run.outcome = .ok f → f = footer ∧ run.accepted = f.encode.bytes
  failed : ∀ reason, run.outcome = .error reason → ∃ cause, reason = .notWritten cause ∧
    (run.accepted.length = Footer.size ∧ sink.flushFault = some cause ∨
      run.accepted.length < Footer.size ∧ EndsRefused sink.turns offers cause ∧
        cause.isInterrupted = false)

theorem EndsRefused.not_interrupted {turns : List Turn} {offers : List Bytes} {cause : Fault}
    (h : EndsRefused turns offers cause) : cause.isInterrupted = false := by
  obtain ⟨k, hk, -, hturn⟩ := h
  exact hturn.not_interrupted

section Proceeds

variable {sink : Sink} {footer : Footer} {w : WriteRun}

/-- A write that was refused ends the append; the sink is not flushed. -/
theorem proceeds_of_refused (hw : w.Orderly sink.turns footer.encode.bytes)
    (hbegins : w.accepted <+: footer.encode.bytes) {cause : Fault}
    (houtcome : w.outcome = .error cause)
    (hlength : w.accepted.length < Footer.size) :
    (AppendRun.mk (.error (.notWritten cause)) (.seekEnd :: w.offers.map SinkCall.write)
      w.accepted []).Proceeds sink footer w.offers := by
  obtain ⟨hoffers, haccepted, hrefused⟩ := hw
  have hpart : ¬ w.accepted.length = Footer.size := Nat.ne_of_lt hlength
  have hends := hrefused cause houtcome
  refine ⟨hoffers, haccepted, hoffers.received_prefix (haccepted ▸ hbegins), ?calls, ?succeeds,
    nofun, ?failed⟩
  case calls => simp [hpart]
  case succeeds => simp [hpart]
  case failed =>
    rintro reason ⟨⟩
    exact ⟨cause, rfl, .inr ⟨hlength, hends, hends.not_interrupted⟩⟩

theorem proceeds_of_written (hw : w.Orderly sink.turns footer.encode.bytes)
    (hall : w.accepted = footer.encode.bytes) (notices : List Notice) :
    (AppendRun.mk ((sink.flushFault.map fun cause => .error (.notWritten cause)).getD (.ok footer))
      (.seekEnd :: w.offers.map SinkCall.write ++ [.flush]) w.accepted notices).Proceeds sink footer
        w.offers := by
  obtain ⟨hoffers, haccepted, -⟩ := hw
  have hlength : w.accepted.length = Footer.size := by
    rw [hall]
    exact Block.length_eq _
  have hbegins : received sink.turns w.offers <+: footer.encode.bytes := by
    rw [← haccepted, hall]
  refine ⟨hoffers, haccepted, hoffers.received_prefix hbegins, ?calls, ?succeeds, ?returned,
    ?failed⟩
  case calls => simp [hlength]
  case succeeds => cases sink.flushFault <;> simp [hlength]
  case returned =>
    intro f hf
    cases hflush : sink.flushFault with
    | some cause =>
      rw [hflush] at hf
      nomatch hf
    | none =>
      rw [hflush] at hf
      obtain rfl := Except.ok.inj hf
      exact ⟨rfl, hall⟩
  case failed =>
    intro reason hreason
    cases hflush : sink.flushFault with
    | none =>
      rw [hflush] at hreason
      nomatch hreason
    | some cause =>
      rw [hflush] at hreason
      obtain rfl := Except.error.inj hreason
      exact ⟨cause, rfl, .inl ⟨hlength, rfl⟩⟩

end Proceeds

/-- For every sink, whatever its end, its script and its flush: where no end is found nothing is
written or flushed, and otherwise the append of the one footer that describes all before the end
proceeds in order. Interruptions do not end it, and are never the reason for a failed write. -/
theorem writeFooter_proceeds (sink : Sink) (stamp : Stamp) (tags : CreatorTags) :
    (∀ cause, sink.size = .error cause →
      writeFooter sink stamp tags = ⟨.error (.noEnd cause), [.seekEnd], [], []⟩) ∧
    ∀ size, sink.size = .ok size → ∃ offers, offers ≠ [] ∧
      (writeFooter sink stamp tags).Proceeds sink
        (.fixed size (Footer.timestampAt stamp.unixTime) (some (.ofRandom stamp.random)) tags)
        offers := by
  refine ⟨fun cause hsize => by simp only [writeFooter, hsize], fun size hsize => ?_⟩
  change ∃ offers, offers ≠ [] ∧
    (writeFooter sink stamp tags).Proceeds sink (stamp.footer size tags) offers
  obtain ⟨footer, hfooter⟩ : ∃ footer, stamp.footer size tags = footer := ⟨_, rfl⟩
  obtain ⟨w, hw⟩ : ∃ w, writeAll sink.turns footer.encode.bytes = w := ⟨_, rfl⟩
  have horderly : w.Orderly sink.turns footer.encode.bytes := hw ▸ orderly_writeAll _ _
  have hsome : w.offers ≠ [] := fun hnone =>
    footer.bytes_encode_ne_nil (horderly.offers.begins.mp hnone)
  refine ⟨w.offers, hsome, ?_⟩
  rw [hfooter]
  cases houtcome : w.outcome with
  | error cause =>
    have hbegins : w.accepted <+: footer.encode.bytes := hw ▸ Writing.isPrefix_accepted _ _
    have hlength := Writing.length_accepted_lt (hw ▸ houtcome)
    rw [hw, Block.length_eq] at hlength
    have hrun : writeFooter sink stamp tags = ⟨.error (.notWritten cause),
        .seekEnd :: w.offers.map SinkCall.write, w.accepted, []⟩ := by
      simp only [writeFooter, hsize, hfooter, hw, houtcome]
    rw [hrun]
    exact proceeds_of_refused horderly hbegins houtcome hlength
  | ok done =>
    have hall : w.accepted = footer.encode.bytes :=
      hw ▸ (Writing.outcome_ok_iff _ _).mp (hw ▸ houtcome)
    have hrun : ∃ notices, writeFooter sink stamp tags =
        ⟨(sink.flushFault.map fun cause => .error (.notWritten cause)).getD (.ok footer),
          .seekEnd :: w.offers.map SinkCall.write ++ [.flush], w.accepted, notices⟩ := by
      cases hflush : sink.flushFault with
      | some cause => exact ⟨[], by simp [writeFooter, hsize, hfooter, hw, houtcome, hflush]⟩
      | none => exact ⟨_, by simp [writeFooter, hsize, hfooter, hw, houtcome, hflush]; rfl⟩
    obtain ⟨notices, hrun⟩ := hrun
    rw [hrun]
    exact proceeds_of_written horderly hall notices

end BootMedia
