import BootMedia.Image.Opening
import BootMedia.Proofs.Host.Programs
import BootMedia.Proofs.Image.Classification
import BootMedia.Proofs.Vhd.FailedAppend
import BootMedia.Proofs.Vhd.RoundTrip

/-!
A file behind which a footer was appended, as it is seen from then on. Main statement: detecting
finds the footer behind any contents, and classifying agrees with that unless the name says that
the image is compressed or there was not one sector before the footer.
-/
namespace BootMedia

namespace Host

theorem openImage_withContents {h : Host} (hs : h.Sound) {path : PathText} {old : Bytes}
    (hopen : h.openToAppend path = .ok old) (contents : Bytes) :
    (h.withContents path (some contents)).openImage path = .ok (.ofFile contents) := by
  unfold openToAppend at hopen
  split at hopen
  · nomatch hopen
  · nomatch hopen
  rename_i place found executable hfound
  obtain ⟨outer, name, rfl, hspot, hchild⟩ := (Tree.find_eq_file hs.rooted hs.standing).mp hfound
  have hwrite : h.tree.writeFile h.directory path contents =
      .ok (h.tree.put (name :: outer) (.file contents executable)) := by
    simp only [Tree.writeFile, hspot, hchild, Bool.false_eq_true, if_false]
  have hkeeps := Tree.keepsDirectories_writeFile hwrite
  have hthere : (h.tree.put (name :: outer) (.file contents executable)).find h.directory path =
      .ok (name :: outer, .file contents executable) := by
    refine hs.rooted.find_file (hs.rooted.writeFile hs.standing hwrite) hkeeps hs.standing hfound ?_
    rw [Tree.get?_put _ (List.cons_ne_nil name outer), if_pos rfl]
  simp only [withContents, hwrite, openImage, hthere]

end Host

/-- However often the writes were cut short or interrupted, an append that succeeds puts the one
footer that describes the contents behind them. -/
theorem writeFooter_eq_ok {contents : Bytes} {seekFault : Option Fault} {turns : List Turn}
    {flushFault : Option Fault} {stamp : Stamp} {tags : CreatorTags} {f : Footer}
    (h : (writeFooter (.ofImage contents seekFault turns flushFault) stamp tags).outcome = .ok f) :
    f = stamp.footer (UInt64.ofNat contents.length) tags ∧
      (writeFooter (.ofImage contents seekFault turns flushFault) stamp tags).imageAfter contents =
        contents ++ f.encode.bytes := by
  cases seekFault with
  | some cause => simp [writeFooter, Sink.ofImage] at h
  | none =>
    obtain ⟨footer, hfooter⟩ :
      ∃ footer, stamp.footer (UInt64.ofNat contents.length) tags = footer := ⟨_, rfl⟩
    cases hwrite : (writeAll turns footer.encode.bytes).outcome with
    | error cause => simp [writeFooter, Sink.ofImage, hfooter, hwrite] at h
    | ok done =>
      cases flushFault with
      | some cause => simp [writeFooter, Sink.ofImage, hfooter, hwrite] at h
      | none =>
        have hwhole := (Writing.outcome_ok_iff _ _).mp hwrite
        simp only [writeFooter, Sink.ofImage, Option.map_none, Option.getD_none, hfooter, hwrite,
          Except.ok.injEq] at h ⊢
        subst h
        exact ⟨rfl, congrArg (contents ++ ·) hwhole⟩

theorem writeFooter_undisturbed (contents : Bytes) (stamp : Stamp) (tags : CreatorTags) :
    (writeFooter (.ofImage contents none [] none) stamp tags).outcome =
      .ok (stamp.footer (UInt64.ofNat contents.length) tags) := by
  have hfooter := Footer.bytes_encode_ne_nil (stamp.footer (UInt64.ofNat contents.length) tags)
  simp [writeFooter, Sink.ofImage, writeAll, hfooter]

namespace ImageReport

/-- The report on a file whose name says how it is compressed, and behind whose `payload` bytes a
footer was appended. -/
def ofAppended (c : Compression) (verdict : Bool) (payload : Nat) : ImageReport :=
  if c ≠ .none then ⟨c, true, false, UInt64.ofNat (payload + 512)⟩
  else if payload < 512 then ⟨.none, verdict, false, UInt64.ofNat (payload + 512)⟩
  else ⟨.none, verdict, true, UInt64.ofNat payload⟩

theorem isVhd_ofAppended (c : Compression) (verdict : Bool) (payload : Nat) :
    (ofAppended c verdict payload).isVhd = true ↔ c = .none ∧ 512 ≤ payload := by
  unfold ofAppended
  by_cases hc : c = .none
  · by_cases hpayload : payload < 512
    · simp [hc, hpayload]
    · simp [hc, hpayload, Nat.le_of_not_lt hpayload]
  · simp [hc]

theorem ofUncompressed_append_fixed (contents : Bytes) (yes : Bool) (size : UInt64)
    (timestamp : UInt32) (uniqueId : Option UniqueId) (tags : CreatorTags) :
    ofUncompressed (contents ++ (Footer.fixed size timestamp uniqueId tags).encode.bytes) yes =
      ofAppended .none yes contents.length := by
  obtain ⟨f, hf⟩ : ∃ f, Footer.fixed size timestamp uniqueId tags = f := ⟨_, rfl⟩
  obtain ⟨image, himage⟩ : ∃ image, contents ++ f.encode.bytes = image := ⟨_, rfl⟩
  have hlength : image.length = contents.length + 512 := by
    rw [← himage, List.length_append, f.encode.length_eq]
  have hrecord : tailRecord image = f.encode := himage ▸ tailRecord_append contents f.encode
  rw [hf, himage, ofUncompressed, hlength, ofAppended, if_neg (not_not.mpr rfl)]
  by_cases hsmall : contents.length < 512
  · rw [if_pos (.inl (by omega)), if_pos hsmall]
  · have hcookie : tailField image 0 8 = Footer.magicCookie.bytes := by
      rw [← Footer.hasCookie_tailRecord (by omega), hrecord, Footer.decode_encode, ← hf]
      simp [Footer.fixed, Footer.hasCookie]
    have hkind : tailField image 12 4 = [0, 1, 0, 0] ∧ tailField image 60 4 = [0, 0, 0, 2] := by
      rw [← Footer.isSupported_tailRecord (by omega), hrecord, Footer.decode_encode, ← hf]
      simp [Footer.fixed, Footer.isSupported]
    have hlarge : ¬ (contents.length + 512 < 1024 ∨
        tailField image 0 8 ≠ Footer.magicCookie.bytes) := by
      rintro (hless | hother)
      · omega
      · exact hother hcookie
    rw [if_neg hlarge, if_pos hkind, if_neg hsmall, Nat.add_sub_cancel]

end ImageReport

theorem classify_append_fixed (path : PathText) (contents : Bytes)
    (hroom : contents.length + 512 < OpenImage.offsetLimit) (size : UInt64) (timestamp : UInt32)
    (uniqueId : Option UniqueId) (tags : CreatorTags) {analyzer : Analyzer} {yes : Bool}
    {said : List Notice}
    (hverdict : analyzer (.ofFile (contents ++
      (Footer.fixed size timestamp uniqueId tags).encode.bytes)) = .bootable yes said) :
    ∃ k, classify path (.ok (.ofFile (contents ++
        (Footer.fixed size timestamp uniqueId tags).encode.bytes))) analyzer = .ok k ∧
      k.report = .ofAppended (Compression.sniff path) yes contents.length := by
  have hlength : (contents ++ (Footer.fixed size timestamp uniqueId tags).encode.bytes).length =
      contents.length + 512 := by
    rw [List.length_append, Block.length_eq]
  by_cases hpath : Compression.sniff path = .none
  · refine ⟨_, classify_ofFile_uncompressed hpath (hlength ▸ hroom) hverdict, ?_⟩
    rw [hpath]
    exact ImageReport.ofUncompressed_append_fixed contents yes size timestamp uniqueId tags
  · refine ⟨_, classify_ofFile_compressed hpath _ analyzer, ?_⟩
    rw [hlength, ImageReport.ofAppended, if_pos hpath]

/-- A file behind whose contents a footer was appended, for every name and contents. The append
succeeds, and every way for it to succeed leaves the same image. The footer is found in it whatever
was there before; the report on a compressed image says nothing of it, and that on any other takes
it for a footer unless there was not one sector before it. -/
theorem append_detect_classify {h : Host} (hs : h.Sound) (path : PathText) (contents : Bytes)
    (hopen : h.openToAppend path = .ok contents)
    (hroom : contents.length + 512 < OpenImage.offsetLimit) (stamp : Stamp) (tags : CreatorTags) :
    let footer := stamp.footer (UInt64.ofNat contents.length) tags
    let image := contents ++ footer.encode.bytes
    let appended := appendFooter path (h.openToAppend path) stamp tags
    let after := h.withContents path appended.2
    let found : Detection := .fixed ⟨footer, UInt64.ofNat contents.length, none⟩
    appended.1.outcome = .ok footer ∧ after.openImage path = .ok (.ofFile image) ∧
    (∀ seekFault turns flushFault f,
      (writeFooter (.ofImage contents seekFault turns flushFault) stamp tags).outcome = .ok f →
      f = footer ∧
        (writeFooter (.ofImage contents seekFault turns flushFault) stamp tags).imageAfter
          contents = image) ∧
    (∀ turns : List Turn, (∀ t ∈ turns, t.OnlyDelays) →
      (detect (Source.ofBytes image) turns (UInt64.ofNat image.length)).outcome = .ok found) ∧
    ∀ (analyzer : Analyzer) yes said, analyzer (.ofFile image) = .bootable yes said →
      ∃ k, classify path (after.openImage path) analyzer = .ok k ∧
        k.report = .ofAppended (Compression.sniff path) yes contents.length ∧
        (k.report.isVhd ≠ found.isVhd ↔
          Compression.sniff path ≠ .none ∨ contents.length < 512) := by
  intro footer image appended after found
  have hlength : image.length = contents.length + 512 := by
    rw [List.length_append, footer.encode.length_eq]
  have hwritten : (writeFooter (.ofImage contents none [] none) stamp tags).outcome =
      .ok footer := writeFooter_undisturbed contents stamp tags
  have happended : appended = (writeFooter (.ofImage contents none [] none) stamp tags,
      some image) := by
    have himage := (writeFooter_eq_ok hwritten).2
    change appendFooter path (h.openToAppend path) stamp tags = _
    rw [hopen, appendFooter_opened, himage]
  have hopened : after.openImage path = .ok (.ofFile image) := by
    change (h.withContents path appended.2).openImage path = _
    rw [happended]
    exact Host.openImage_withContents hs hopen image
  rw [hopened]
  refine ⟨?appended, rfl, ?anyhow, ?detected, ?classified⟩
  case appended =>
    rw [happended]
    exact hwritten
  case anyhow =>
    intro seekFault turns flushFault f hf
    obtain ⟨rfl, hsame⟩ := writeFooter_eq_ok hf
    exact ⟨rfl, hsame⟩
  case detected =>
    intro turns hturns
    have hlimit : OpenImage.offsetLimit < 2 ^ 64 := by decide
    have hpayload : UInt64.ofNat (contents.length + 512) - 512 = UInt64.ofNat contents.length := by
      rw [UInt64.ofNat_add]
      exact UInt64.add_sub_cancel _ _
    have hread : Detection.ofFooter footer (UInt64.ofNat (contents.length + 512)) = found := by
      have hfixed := Footer.ofFooter_fixed (UInt64.ofNat contents.length)
        (Footer.timestampAt stamp.unixTime) (some (UniqueId.ofRandom stamp.random)) tags
        (UInt64.ofNat (contents.length + 512))
      rw [hpayload] at hfixed
      exact hfixed
    rw [outcome_detect image turns (by omega) (by omega) hturns, tailRecord_append,
      Footer.decode_encode, hlength, hread]
  case classified =>
    intro analyzer yes said hverdict
    obtain ⟨k, hk, hreport⟩ := classify_append_fixed path contents hroom _ _ _ _ hverdict
    refine ⟨k, hk, hreport, ?_⟩
    have hvhd := ImageReport.isVhd_ofAppended (Compression.sniff path) yes contents.length
    rw [hreport, Ne, show found.isVhd = true from rfl, hvhd, not_and_or, Nat.not_le]

/-- The file is itself nothing but a footer, which becomes the payload of the one behind it. -/
theorem append_detect_classify_behind_footer :
    let contents := (Footer.fixed 0 7 none Footer.defaultTags).encode.bytes
    let host : Host := ⟨Tree.empty.put [['a']] (.file contents false), [], none,
      fun _ => ⟨[], .exited 0, []⟩, []⟩
    let stamp : Stamp := ⟨1750000000, Block.zero 16⟩
    let footer := stamp.footer 512 Footer.defaultTags
    let appended := appendFooter ['a'] (host.openToAppend ['a']) stamp Footer.defaultTags
    let turns : List Turn := [.limit 100, .fault (.system 4), .limit 1]
    host.Sound ∧ host.openToAppend ['a'] = .ok contents ∧
      contents.length + 512 < OpenImage.offsetLimit ∧ (∀ t ∈ turns, t.OnlyDelays) ∧
      appended.1.outcome = .ok footer ∧
      (detect (Source.ofBytes (contents ++ footer.encode.bytes)) turns 1024).outcome =
        .ok (.fixed ⟨footer, 512, none⟩) ∧
      ∃ k, classify ['a'] ((host.withContents ['a'] appended.2).openImage ['a'])
        (.always true) = .ok k ∧ k.report = ⟨.none, true, true, 512⟩ := by
  intro contents host stamp footer appended turns
  have hlength : contents.length = 512 := Block.length_eq _
  have hhost : host.Sound := ⟨Tree.rooted_empty.put rfl nofun, rfl⟩
  have hopen : host.openToAppend ['a'] = .ok contents := rfl
  have hroom : contents.length + 512 < OpenImage.offsetLimit := by
    rw [hlength]
    decide
  have hturns : ∀ t ∈ turns, t.OnlyDelays := by decide
  obtain ⟨hwritten, -, -, hdetect, hclassify⟩ := append_detect_classify hhost ['a'] contents hopen
    hroom stamp Footer.defaultTags
  have hdetected := hdetect turns hturns
  obtain ⟨k, hk, hreport, -⟩ := hclassify (.always true) true [] rfl
  rw [List.length_append, hlength, Block.length_eq] at hdetected
  rw [hlength] at hwritten hreport
  exact ⟨hhost, hopen, hroom, hturns, hwritten, hdetected, k, hk, hreport⟩

end BootMedia
