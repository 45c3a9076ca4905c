import BootMedia.Proofs.Image.Appended
import BootMedia.Proofs.Transfer.OpenFile

/-!
Footers that were appended to an image one after the other. Each append makes the image so far,
with all the footers in it, the payload of the next one. Main statement: whatever happened to the
calls in between, the image is the first contents with the footers in order behind them, each one
describes what lies before it, and taking off the last 512 bytes again and again uncovers one
footer after the other and the contents in the end.
-/
namespace BootMedia

theorem contents_afterCalls_writeFooter (contents : Bytes) (position : Nat)
    (seekFault : Option Fault) (turns : List Turn) (flushFault : Option Fault) (stamp : Stamp)
    (tags : CreatorTags) :
    let run := writeFooter (.ofImage contents seekFault turns flushFault) stamp tags
    (OpenFile.afterCalls turns ⟨contents, position⟩ run.calls).contents =
      run.imageAfter contents := by
  intro run
  cases seekFault with
  | some cause => simp [run, writeFooter, Sink.ofImage, OpenFile.afterCalls, AppendRun.imageAfter]
  | none =>
    obtain ⟨footer, hfooter⟩ :
      ∃ footer, stamp.footer (UInt64.ofNat contents.length) tags = footer := ⟨_, rfl⟩
    obtain ⟨w, hw⟩ : ∃ w, writeAll turns footer.encode.bytes = w := ⟨_, rfl⟩
    have haccepted : w.accepted = received turns w.offers :=
      hw ▸ (orderly_writeAll turns footer.encode.bytes).accepted_eq
    have hrun : ∃ flushed : Bool, run.accepted = w.accepted ∧
        run.calls = .seekEnd :: w.offers.map SinkCall.write ++
          if flushed then [.flush] else [] := by
      cases houtcome : w.outcome with
      | error cause =>
        exact ⟨false, by simp [run, writeFooter, Sink.ofImage, hfooter, hw, houtcome]⟩
      | ok done =>
        refine ⟨true, ?_⟩
        cases flushFault <;> simp [run, writeFooter, Sink.ofImage, hfooter, hw, houtcome]
    obtain ⟨flushed, hsame, hcalls⟩ := hrun
    rw [hcalls, OpenFile.contents_afterCalls, AppendRun.imageAfter, hsame, haccepted]

theorem writeFooter_delayed (contents : Bytes) {turns : List Turn}
    (hturns : ∀ t ∈ turns, t.OnlyDelays) (stamp : Stamp) (tags : CreatorTags) :
    (writeFooter (.ofImage contents none turns none) stamp tags).outcome =
      .ok (stamp.footer (UInt64.ofNat contents.length) tags) := by
  have hwritten := Writing.outcome_of_onlyDelays hturns
    (stamp.footer (UInt64.ofNat contents.length) tags).encode.bytes
  simp [writeFooter, Sink.ofImage, hwritten]

/-- An append to contents that succeeded, with the footer it returned and what it left: to the file
at a path, or through a writer, wherever its position was and however its calls went. -/
inductive Appends (contents : Bytes) : Footer → Bytes → Prop
  | toFile (path : PathText) (stamp : Stamp) (tags : CreatorTags) {footer : Footer} {after : Bytes}
      (hok : (appendFooter path (.ok contents) stamp tags).1.outcome = .ok footer)
      (hafter : (appendFooter path (.ok contents) stamp tags).2 = some after) :
      Appends contents footer after
  | toWriter (position : Nat) (seekFault : Option Fault) (turns : List Turn)
      (flushFault : Option Fault) (stamp : Stamp) (tags : CreatorTags) {footer : Footer}
      (hok : (writeFooter (.ofImage contents seekFault turns flushFault) stamp tags).outcome =
        .ok footer) :
      Appends contents footer (OpenFile.afterCalls turns ⟨contents, position⟩
        (writeFooter (.ofImage contents seekFault turns flushFault) stamp tags).calls).contents

/-- However an append succeeded, it left its footer behind the contents. -/
theorem Appends.eq_append {contents after : Bytes} {footer : Footer}
    (h : Appends contents footer after) :
    (∃ stamp tags, footer = Stamp.footer stamp (UInt64.ofNat contents.length) tags) ∧
      after = contents ++ footer.encode.bytes := by
  cases h with
  | toFile path stamp tags hok hafter =>
    rw [appendFooter_opened] at hok hafter
    obtain ⟨hfooter, himage⟩ := writeFooter_eq_ok hok
    exact ⟨⟨stamp, tags, hfooter⟩, (Option.some.inj hafter).symm.trans himage⟩
  | toWriter position seekFault turns flushFault stamp tags hok =>
    obtain ⟨hfooter, himage⟩ := writeFooter_eq_ok hok
    rw [contents_afterCalls_writeFooter, himage]
    exact ⟨⟨stamp, tags, hfooter⟩, rfl⟩

/-- Appends that succeeded one after the other, with the footers they returned in order and what
they left in the end. -/
inductive Stacked (contents : Bytes) : List Footer → Bytes → Prop
  | bare : Stacked contents [] contents
  | append {footers : List Footer} {image : Bytes} {footer : Footer} {after : Bytes}
      (below : Stacked contents footers image) (step : Appends image footer after) :
      Stacked contents (footers ++ [footer]) after

theorem Stacked.pair {contents below image : Bytes} {first second : Footer}
    (hfirst : Appends contents first below) (hsecond : Appends below second image) :
    Stacked contents [first, second] image :=
  (Stacked.bare.append hfirst).append hsecond

def records (footers : List Footer) : Bytes := footers.flatMap fun f => f.encode.bytes

theorem records_concat (footers : List Footer) (f : Footer) :
    records (footers ++ [f]) = records footers ++ f.encode.bytes := by
  simp [records]

theorem length_records (footers : List Footer) :
    (records footers).length = 512 * footers.length := by
  induction footers with
  | nil => rfl
  | cons f footers ih =>
    change (f.encode.bytes ++ records footers).length = 512 * (footers.length + 1)
    rw [List.length_append, f.encode.length_eq, ih]
    omega

def DescribesBelow (size : Nat) (footers : List Footer) : Prop :=
  ∀ i (h : i < footers.length), ∃ stamp tags,
    footers[i] = Stamp.footer stamp (UInt64.ofNat (size + 512 * i)) tags

theorem Stacked.layers {contents image : Bytes} {footers : List Footer}
    (h : Stacked contents footers image) :
    image = contents ++ records footers ∧ DescribesBelow contents.length footers := by
  induction h with
  | bare => exact ⟨(List.append_nil contents).symm, nofun⟩
  | @append footers image footer after below step ih =>
    obtain ⟨himage, hbelow⟩ := ih
    obtain ⟨⟨stamp, tags, hfooter⟩, hafter⟩ := step.eq_append
    have hsize : image.length = contents.length + 512 * footers.length := by
      rw [himage, List.length_append, length_records]
    refine ⟨?_, fun i hi => ?_⟩
    · rw [hafter, himage, records_concat, List.append_assoc]
    · by_cases hlast : i < footers.length
      · rw [List.getElem_append_left hlast]
        exact hbelow i hlast
      · rw [List.length_append, List.length_singleton] at hi
        obtain rfl : i = footers.length := by omega
        rw [List.getElem_concat_length rfl]
        exact ⟨stamp, tags, hsize ▸ hfooter⟩

def withoutTail (image : Bytes) : Bytes := image.take (image.length - 512)

theorem withoutTail_append (p : Bytes) (r : Record) : withoutTail (p ++ r.bytes) = p := by
  have hlength : (p ++ r.bytes).length - 512 = p.length := by
    rw [List.length_append, r.length_eq]
    omega
  rw [withoutTail, hlength, List.take_left]

/-- The footers come off from the last one on. -/
theorem iterate_withoutTail (contents : Bytes) (footers : List Footer) (j : Nat)
    (hj : j ≤ footers.length) :
    withoutTail^[j] (contents ++ records footers) =
      contents ++ records (footers.take (footers.length - j)) := by
  induction j with
  | zero => rw [Nat.sub_zero, List.take_length, Function.iterate_zero_apply]
  | succ j ih =>
    have hin : footers.length - (j + 1) < footers.length := by omega
    have hnext : footers.length - j = footers.length - (j + 1) + 1 := by omega
    rw [Function.iterate_succ_apply', ih (by omega), hnext, List.take_succ_eq_append_getElem hin,
      records_concat, ← List.append_assoc, withoutTail_append]

theorem iterate_withoutTail_eq_append (contents : Bytes) (footers : List Footer) (i j : Nat)
    (hi : i < footers.length) (hj : i + 1 + j = footers.length) :
    withoutTail^[j] (contents ++ records footers) =
      contents ++ records (footers.take i) ++ footers[i].encode.bytes := by
  have hleft : footers.length - j = i + 1 := by omega
  rw [iterate_withoutTail contents footers j (by omega), hleft,
    List.take_succ_eq_append_getElem hi, records_concat, List.append_assoc]

theorem Stamp.mismatch?_footer (stamp : Stamp) (size : UInt64) (tags : CreatorTags) :
    (stamp.footer size tags).mismatch? = none :=
  (Footer.mismatch?_eq_none_iff _).mpr (Footer.checksum_fixed _ _ _ _)

theorem outcome_detect_stamped (p : Bytes) (stamp : Stamp) (tags : CreatorTags)
    {turns : List Turn} (hroom : p.length + 512 < 2 ^ 64)
    (hturns : ∀ t ∈ turns, t.OnlyDelays) :
    let footer := stamp.footer (UInt64.ofNat p.length) tags
    let image := p ++ footer.encode.bytes
    (detect (Source.ofBytes image) turns (UInt64.ofNat image.length)).outcome =
      .ok (.fixed ⟨footer, UInt64.ofNat p.length, none⟩) := by
  intro footer image
  have hpayload : UInt64.ofNat (p.length + 512) - 512 = UInt64.ofNat p.length := by
    rw [UInt64.ofNat_add]
    exact UInt64.add_sub_cancel _ _
  rw [outcome_detect_append p footer turns hroom hturns]
  change Except.ok (Detection.ofFooter (Footer.fixed _ _ _ _) _) = _
  rw [Footer.ofFooter_fixed, hpayload]
  rfl

/-- An image with footers stacked behind its first contents, none of them longer than can be
stated. The earlier bytes stand unchanged below the later ones; every footer describes what lies
before it and carries its own checksum; and as often as the last 512 bytes are taken off, detection
finds the footer that is uncovered with everything below as its payload, until the contents are
left. -/
theorem stacked_footers_peel_off {contents image : Bytes} {footers : List Footer}
    (h : Stacked contents footers image)
    (hroom : contents.length + 512 * footers.length < 2 ^ 64) :
    image = contents ++ footers.flatMap (fun f => f.encode.bytes) ∧
    (∀ i (hi : i < footers.length),
      footers[i].originalSize.toNat = contents.length + 512 * i ∧
      footers[i].currentSize.toNat = contents.length + 512 * i ∧
      footers[i].geometry = Chs.ofSize footers[i].currentSize ∧ footers[i].mismatch? = none) ∧
    (∀ j (hj : j < footers.length) (turns : List Turn), (∀ t ∈ turns, t.OnlyDelays) →
      let rest := withoutTail^[j] image
      (detect (Source.ofBytes rest) turns (UInt64.ofNat rest.length)).outcome =
        .ok (.fixed ⟨footers[footers.length - 1 - j],
          UInt64.ofNat (contents.length + 512 * (footers.length - 1 - j)), none⟩)) ∧
    withoutTail^[footers.length] image = contents := by
  obtain ⟨himage, hbelow⟩ := h.layers
  refine ⟨himage, ?described, ?uncovered, ?contents⟩
  case described =>
    intro i hi
    obtain ⟨stamp, tags, hfooter⟩ := hbelow i hi
    have hsize : (UInt64.ofNat (contents.length + 512 * i)).toNat = contents.length + 512 * i :=
      UInt64.toNat_ofNat_of_lt' (by simp only [UInt64.size]; omega)
    rw [hfooter]
    exact ⟨hsize, hsize, rfl, stamp.mismatch?_footer _ tags⟩
  case uncovered =>
    intro j hj turns hturns rest
    obtain ⟨i, hi⟩ : ∃ i, i = footers.length - 1 - j := ⟨_, rfl⟩
    have hin : i < footers.length := by omega
    obtain ⟨stamp, tags, hfooter⟩ := hbelow i hin
    obtain ⟨p, hp⟩ : ∃ p, p = contents ++ records (footers.take i) := ⟨_, rfl⟩
    have hlength : p.length = contents.length + 512 * i := by
      rw [hp, List.length_append, length_records, List.length_take, Nat.min_eq_left (by omega)]
    have hrest : rest = p ++ footers[i].encode.bytes := by
      change withoutTail^[j] image = _
      rw [himage, iterate_withoutTail_eq_append contents footers i j hin (by omega), hp]
    have hfound := outcome_detect_stamped p stamp tags (by omega) hturns
    simp only [hlength, ← hfooter, ← hrest] at hfound
    simpa only [← hi] using hfound
  case contents =>
    rw [himage, iterate_withoutTail contents footers _ (Nat.le_refl _), Nat.sub_self]
    simp [records]

/-- The second footer is written in parts through a writer that stands in the middle of the first
one. -/
theorem stacked_footers_peel_off_two :
    let contents : Bytes := [1, 2, 3]
    let first := (Stamp.mk 1750000000 (Block.zero 16)).footer 3 Footer.defaultTags
    let second := (Stamp.mk 0 (Block.zero 16)).footer 515 ⟨Block.zero 4, 7, Block.zero 4⟩
    let image := contents ++ first.encode.bytes ++ second.encode.bytes
    let turns : List Turn := [.limit 100, .fault (.system 4), .limit 1]
    Stacked contents [first, second] image ∧ contents.length + 512 * 2 < 2 ^ 64 ∧
      (∀ t ∈ turns, t.OnlyDelays) ∧ second.currentSize.toNat = 515 ∧ second.mismatch? = none ∧
      (detect (Source.ofBytes (withoutTail image)) turns
        (UInt64.ofNat (withoutTail image).length)).outcome = .ok (.fixed ⟨first, 3, none⟩) ∧
      withoutTail (withoutTail image) = contents := by
  intro contents first second image turns
  have hturns : ∀ t ∈ turns, t.OnlyDelays := by decide
  obtain ⟨below, hbelow⟩ : ∃ below, contents ++ first.encode.bytes = below := ⟨_, rfl⟩
  have hlength : below.length = 515 := by
    rw [← hbelow, List.length_append, Block.length_eq]
    rfl
  have hfirst : Appends contents first below := by
    have hok := writeFooter_undisturbed contents ⟨1750000000, Block.zero 16⟩ Footer.defaultTags
    refine .toFile [] ⟨1750000000, Block.zero 16⟩ Footer.defaultTags hok ?_
    rw [appendFooter_opened, (writeFooter_eq_ok hok).2, ← hbelow]
    rfl
  have hsecond : Appends below second image := by
    have hok := writeFooter_delayed below hturns ⟨0, Block.zero 16⟩
      ⟨Block.zero 4, 7, Block.zero 4⟩
    rw [hlength] at hok
    have hstep := Appends.toWriter 200 none turns none ⟨0, Block.zero 16⟩
      ⟨Block.zero 4, 7, Block.zero 4⟩ hok
    rw [hstep.eq_append.2, ← hbelow] at hstep
    rw [← hbelow]
    exact hstep
  have hstacked := Stacked.pair hfirst hsecond
  have hroom : contents.length + 512 * 2 < 2 ^ 64 := by decide
  obtain ⟨-, hdescribed, huncovered, hcontents⟩ := stacked_footers_peel_off hstacked hroom
  obtain ⟨-, hsize, -, hchecksum⟩ := hdescribed 1 Nat.one_lt_two
  have hpayload : UInt64.ofNat (contents.length + 512 * (2 - 1 - 1)) = 3 := rfl
  have hfound := huncovered 1 Nat.one_lt_two turns hturns
  simp only [Function.iterate_one, List.length_cons, List.length_nil, hpayload] at hfound
  change withoutTail^[2] image = contents at hcontents
  rw [Function.iterate_succ_apply, Function.iterate_one] at hcontents
  exact ⟨hstacked, hroom, hturns, hsize, hchecksum, hfound, hcontents⟩

end BootMedia
