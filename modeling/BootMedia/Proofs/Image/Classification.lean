import BootMedia.Proofs.Image.Examination
import BootMedia.Proofs.Vhd.TailRecord

/-!
What classifying an image comes to. Three fields in the last 512 bytes of a file tell whether a
footer is there and whether it is supported. Main statement: the report on a regular file follows
from its name, the verdict of the analyzer, its length and these three fields, and a footer is
never looked for in a file that is too small for one.
-/
namespace BootMedia

def tailField (image : Bytes) (start width : Nat) : Bytes :=
  (image.drop (image.length - 512 + start)).take width

theorem bytes_slice_tailRecord {image : Bytes} (hsize : 512 ≤ image.length) (start width : Nat)
    (h : start + width ≤ 512) :
    ((tailRecord image).slice start width h).bytes = tailField image start width := by
  simp only [Block.slice, bytes_tailRecord image hsize, List.drop_drop, tailField]

theorem tailField_congr {image other : Bytes} {start width : Nat}
    (h : ∀ i, start ≤ i → i < start + width →
      image[image.length - 512 + i]? = other[other.length - 512 + i]?) :
    tailField image start width = tailField other start width := by
  apply List.ext_getElem?
  intro i
  by_cases hi : i < width
  · have hsame := h (start + i) (by omega) (by omega)
    rw [← Nat.add_assoc, ← Nat.add_assoc] at hsame
    simpa only [tailField, List.getElem?_take_of_lt hi, List.getElem?_drop] using hsame
  · have hnone : ∀ b : Bytes, (b.take width)[i]? = none := by
      intro b
      apply List.getElem?_eq_none
      rw [List.length_take]
      omega
    rw [tailField, tailField, hnone, hnone]

namespace Footer

theorem number_eq_iff (r : Record) (start width : Nat) (h : start + width ≤ 512) {b : Bytes}
    (hb : b.length = width) :
    number r start width h = BigEndian.decode b ↔ (r.slice start width h).bytes = b := by
  constructor
  · exact BigEndian.decode_injective ((Block.length_eq _).trans hb.symm)
  · intro heq
    rw [number, heq]

theorem hasCookie_tailRecord {image : Bytes} (hsize : 512 ≤ image.length) :
    (decode (tailRecord image)).hasCookie = true ↔ tailField image 0 8 = magicCookie.bytes := by
  rw [hasCookie_decode, Block.ext_iff, bytes_slice_tailRecord hsize]

theorem isSupported_tailRecord {image : Bytes} (hsize : 512 ≤ image.length) :
    (decode (tailRecord image)).isSupported = true ↔
      tailField image 12 4 = [0, 1, 0, 0] ∧ tailField image 60 4 = [0, 0, 0, 2] := by
  have hversion := number_eq_iff (tailRecord image) 12 4 (by decide) (b := [0, 1, 0, 0]) rfl
  have htype := number_eq_iff (tailRecord image) 60 4 (by decide) (b := [0, 0, 0, 2]) rfl
  rw [bytes_slice_tailRecord hsize] at hversion htype
  rw [isSupported_decode, ← hversion, ← htype]
  rfl

end Footer

theorem OpenImage.outcome_findFooter (contents : Bytes) (hlow : 512 ≤ contents.length)
    (hhigh : contents.length < offsetLimit) :
    ((ofFile contents).findFooter (UInt64.ofNat contents.length)).outcome =
      .ok (Detection.ofFooter (Footer.decode (tailRecord contents))
        (UInt64.ofNat contents.length)) := by
  have hword : contents.length < 2 ^ 64 := Nat.lt_trans hhigh (by decide)
  have hsize : (UInt64.ofNat contents.length).toNat = contents.length :=
    UInt64.toNat_ofNat_of_lt' hword
  have hfault := (ofFile contents).faultAt_tail (hsize.symm ▸ hlow) (hsize.symm ▸ hhigh)
  rw [findFooter, hfault]
  exact outcome_detect contents [] hlow hword fun _ ht => absurd ht List.not_mem_nil

namespace ImageReport

/-- The report on an uncompressed file, by its length, the verdict of the analyzer and three fields
of its last 512 bytes. -/
def ofUncompressed (contents : Bytes) (verdict : Bool) : ImageReport :=
  if contents.length < 1024 ∨ tailField contents 0 8 ≠ Footer.magicCookie.bytes then
    ⟨.none, verdict, false, UInt64.ofNat contents.length⟩
  else if tailField contents 12 4 = [0, 1, 0, 0] ∧ tailField contents 60 4 = [0, 0, 0, 2] then
    ⟨.none, verdict, true, UInt64.ofNat (contents.length - 512)⟩
  else ⟨.none, false, false, UInt64.ofNat (contents.length - 512)⟩

theorem withDetection_ofFooter (r : ImageReport) (f : Footer) (fileSize : UInt64) :
    r.withDetection (Detection.ofFooter f fileSize) =
      if f.hasCookie = true then
        if f.isSupported = true then { r with isVhd := true, projectedSize := fileSize - 512 }
        else { r with bootable := false, projectedSize := fileSize - 512 }
      else r := by
  unfold Detection.ofFooter
  cases f.hasCookie <;> cases f.isSupported <;> rfl

theorem searchFooter_ofFile (contents : Bytes) (yes : Bool)
    (hsize : contents.length < OpenImage.offsetLimit) :
    (OpenImage.searchFooter (.ofFile contents) (UInt64.ofNat contents.length)
      ⟨.none, yes, false, UInt64.ofNat contents.length⟩).1 = ofUncompressed contents yes := by
  have hword : contents.length < 2 ^ 64 := Nat.lt_trans hsize (by decide)
  have hnumber : (UInt64.ofNat contents.length).toNat = contents.length :=
    UInt64.toNat_ofNat_of_lt' hword
  have hshort : UInt64.ofNat contents.length < smallestWithFooter ↔ contents.length < 1024 := by
    rw [UInt64.lt_iff_toNat_lt, hnumber]
    rfl
  unfold OpenImage.searchFooter
  by_cases hsmall : contents.length < 1024
  · rw [if_pos (hshort.mpr hsmall), ofUncompressed, if_pos (.inl hsmall)]
  · have hlow : 512 ≤ contents.length := by omega
    have hpayload : UInt64.ofNat contents.length - 512 = UInt64.ofNat (contents.length - 512) :=
      (UInt64.ofNat_sub hlow).symm
    have hfooter := OpenImage.outcome_findFooter contents hlow hsize
    have hcookie := Footer.hasCookie_tailRecord hlow
    have hsupported := Footer.isSupported_tailRecord hlow
    rw [if_neg (fun h => hsmall (hshort.mp h))]
    simp only [hfooter, withDetection_ofFooter, hcookie, hsupported, hpayload]
    by_cases hfound : tailField contents 0 8 = Footer.magicCookie.bytes
    · rw [if_pos hfound, ofUncompressed, if_neg (not_or.mpr ⟨hsmall, not_not.mpr hfound⟩)]
    · rw [if_neg hfound, ofUncompressed, if_pos (.inr hfound)]

/-- The report depends on the contents through their length and the three fields alone. -/
theorem ofUncompressed_congr {contents other : Bytes} (yes : Bool)
    (hlength : other.length = contents.length)
    (h : 512 ≤ contents.length → ∀ i, i < 8 ∨ 12 ≤ i ∧ i < 16 ∨ 60 ≤ i ∧ i < 64 →
      other[contents.length - 512 + i]? = contents[contents.length - 512 + i]?) :
    ofUncompressed other yes = ofUncompressed contents yes := by
  unfold ofUncompressed
  rw [hlength]
  by_cases hsmall : contents.length < 1024
  · rw [if_pos (.inl hsmall), if_pos (.inl hsmall)]
  · have hfields := h (by omega)
    rw [← hlength] at hfields
    have hcookie : tailField other 0 8 = tailField contents 0 8 :=
      tailField_congr fun i _ hi => hlength ▸ hfields i (by omega)
    have hversion : tailField other 12 4 = tailField contents 12 4 :=
      tailField_congr fun i _ hi => hlength ▸ hfields i (by omega)
    have htype : tailField other 60 4 = tailField contents 60 4 :=
      tailField_congr fun i _ hi => hlength ▸ hfields i (by omega)
    rw [hcookie, hversion, htype]

end ImageReport

theorem lt_of_detect_tooSmall {source : Source} {turns : List Turn} {fileSize stated : UInt64}
    (h : (detect source turns fileSize).outcome = .error (.tooSmall stated)) : fileSize < 512 := by
  unfold detect at h
  by_contra hlarge
  rw [if_neg hlarge] at h
  cases hread : (source.readExact turns (fileSize - 512) Footer.size).outcome with
  | error cause => simp [hread] at h
  | ok bytes => simp [hread] at h

namespace OpenImage

theorem tooSmall_not_mem_searchFooter (image : OpenImage) (size stated : UInt64)
    (report : ImageReport) :
    .footerUnread (.tooSmall stated) ∉ (searchFooter image size report).2 := by
  unfold searchFooter
  by_cases hsmall : size < ImageReport.smallestWithFooter
  · rw [if_pos hsmall]
    exact List.not_mem_nil
  · rw [if_neg hsmall]
    have hlarge : ¬ size < 512 := by
      rw [UInt64.lt_iff_toNat_lt] at hsmall ⊢
      have hbound : ImageReport.smallestWithFooter.toNat = 1024 := rfl
      have hfooter : (512 : UInt64).toNat = 512 := rfl
      omega
    cases houtcome : (image.findFooter size).outcome with
    | error reason =>
      cases reason with
      | tooSmall s =>
        rw [findFooter] at houtcome
        exact absurd (lt_of_detect_tooSmall houtcome) hlarge
      | unread cause => simp [footerNotices, houtcome]
    | ok found =>
      cases found with
      | notVhd => simp [footerNotices, DetectRun.notices, houtcome, Detection.notices]
      | unsupported version diskType payload => simp [footerNotices, houtcome]
      | fixed vhd => simp [footerNotices, DetectRun.notices, houtcome, Detection.notices]

theorem tooSmall_not_mem_describe (image : OpenImage) (c : Compression) (yes : Bool)
    (stated : UInt64) : .footerUnread (.tooSmall stated) ∉ (image.describe c yes).2 := by
  unfold describe
  cases image.size with
  | error cause => simp
  | ok size =>
    dsimp only
    split
    · exact List.not_mem_nil
    · exact tooSmall_not_mem_searchFooter image size stated _

theorem describe_ofFile_compressed (contents : Bytes) {c : Compression}
    (hc : c.isCompressed = true) (yes : Bool) :
    (ofFile contents).describe c yes =
      (⟨c, yes, false, UInt64.ofNat contents.length⟩, []) := by
  simp only [describe, ofFile, hc, if_true]

theorem searchFooter_snd_eq (image : OpenImage) (size : UInt64) (report other : ImageReport) :
    (searchFooter image size report).2 = (searchFooter image size other).2 := by
  unfold searchFooter
  by_cases hsmall : size < ImageReport.smallestWithFooter
  · rw [if_pos hsmall, if_pos hsmall]
  · rw [if_neg hsmall, if_neg hsmall]
    cases houtcome : (image.findFooter size).outcome with
    | error reason => simp only [houtcome]
    | ok found => simp only [houtcome]

def searchNotices (contents : Bytes) : List Notice :=
  ((ofFile contents).searchFooter (UInt64.ofNat contents.length) .blank).2

theorem describe_ofFile_uncompressed (contents : Bytes) (yes : Bool)
    (hsize : contents.length < offsetLimit) :
    (ofFile contents).describe .none yes =
      (.ofUncompressed contents yes, searchNotices contents) := by
  have hnotices := searchFooter_snd_eq (.ofFile contents) (UInt64.ofNat contents.length)
    ⟨.none, yes, false, UInt64.ofNat contents.length⟩ .blank
  have hreport := ImageReport.searchFooter_ofFile contents yes hsize
  rw [searchNotices, ← hnotices, ← hreport]
  rfl

end OpenImage

theorem Compression.isCompressed_iff (c : Compression) : c.isCompressed = true ↔ c ≠ .none := by
  cases c <;> decide

theorem classify_ofFile_uncompressed {path : PathText} (hpath : Compression.sniff path = .none)
    {contents : Bytes} (hsize : contents.length < OpenImage.offsetLimit) {analyzer : Analyzer}
    {yes : Bool} {said : List Notice} (h : analyzer (.ofFile contents) = .bootable yes said) :
    classify path (.ok (.ofFile contents)) analyzer =
      .ok ⟨.ofUncompressed contents yes, said ++ OpenImage.searchNotices contents,
        [.ofFile contents]⟩ := by
  have hname : (Compression.sniff path).isCompressed = false := by rw [hpath]; rfl
  rw [classify_of_verdict hname h, hpath,
    OpenImage.describe_ofFile_uncompressed contents yes hsize]

theorem classify_ofFile_compressed {path : PathText} (hpath : Compression.sniff path ≠ .none)
    (contents : Bytes) (analyzer : Analyzer) :
    classify path (.ok (.ofFile contents)) analyzer =
      .ok ⟨⟨Compression.sniff path, true, false, UInt64.ofNat contents.length⟩, [], []⟩ := by
  have hname := (Compression.isCompressed_iff _).mpr hpath
  rw [classify_of_compressed hname, OpenImage.describe_ofFile_compressed contents hname]

/-- A complaint about a file too small for a footer comes from the analyzer, if from anywhere. -/
theorem tooSmall_mem_classify {path : PathText} {opened : Except Fault OpenImage}
    {analyzer : Analyzer} {k : Classification} {stated : UInt64}
    (h : classify path opened analyzer = .ok k)
    (hmem : .footerUnread (.tooSmall stated) ∈ k.notices) :
    ∃ image yes said, opened = .ok image ∧ analyzer image = .bootable yes said ∧
      .footerUnread (.tooSmall stated) ∈ said := by
  cases classified_of_classify h with
  | notOpened cause => simp at hmem
  | compressed image hname =>
    exact absurd hmem (OpenImage.tooSmall_not_mem_describe image _ _ stated)
  | @analyzed image yes said hname hverdict =>
    have hsaid := (List.mem_append.mp hmem).resolve_right
      (OpenImage.tooSmall_not_mem_describe image _ _ stated)
    exact ⟨image, yes, said, rfl, hverdict, hsaid⟩

/-- What classifying a regular file comes to, for every name, contents and analyzer. A compressed
image is reported by its name and its length, and the analyzer is not asked. For any other the
analyzer is asked once, and the report follows from its verdict, the length and three fields of the
last 512 bytes, so that files that agree in these get the same report. No complaint that a file is
too small for a footer is added, and of a file that cannot be opened nothing is known. -/
theorem classify_regular_file (path : PathText) (contents : Bytes)
    (hsize : contents.length < OpenImage.offsetLimit) :
    (Compression.sniff path ≠ .none → ∀ analyzer,
      classify path (.ok (.ofFile contents)) analyzer =
        .ok ⟨⟨Compression.sniff path, true, false, UInt64.ofNat contents.length⟩, [], []⟩) ∧
    (Compression.sniff path = .none → ∃ more, ∀ (analyzer : Analyzer) yes said,
      analyzer (.ofFile contents) = .bootable yes said →
      classify path (.ok (.ofFile contents)) analyzer =
        .ok ⟨.ofUncompressed contents yes, said ++ more, [.ofFile contents]⟩) ∧
    (Compression.sniff path = .none → ∀ (path' : PathText) (contents' : Bytes)
        (analyzer analyzer' : Analyzer) yes said said',
      Compression.sniff path' = .none → contents'.length = contents.length →
      analyzer (.ofFile contents) = .bootable yes said →
      analyzer' (.ofFile contents') = .bootable yes said' →
      (512 ≤ contents.length → ∀ i, i < 8 ∨ 12 ≤ i ∧ i < 16 ∨ 60 ≤ i ∧ i < 64 →
        contents'[contents.length - 512 + i]? = contents[contents.length - 512 + i]?) →
      (classify path' (.ok (.ofFile contents')) analyzer').map (·.report) =
        (classify path (.ok (.ofFile contents)) analyzer).map (·.report)) ∧
    (∀ opened (analyzer : Analyzer) k stated, classify path opened analyzer = .ok k →
      .footerUnread (.tooSmall stated) ∈ k.notices →
      ∃ image yes said, opened = .ok image ∧ analyzer image = .bootable yes said ∧
        .footerUnread (.tooSmall stated) ∈ said) ∧
    (∀ cause analyzer, classify path (.error cause) analyzer =
      .ok ⟨⟨.none, false, false, 0⟩, [.imageNotOpened path cause], []⟩) := by
  refine ⟨?compressed, ?uncompressed, ?independent, ?largeEnough, fun _ _ => rfl⟩
  case compressed =>
    intro hpath analyzer
    exact classify_ofFile_compressed hpath contents analyzer
  case uncompressed =>
    intro hpath
    exact ⟨OpenImage.searchNotices contents,
      fun analyzer yes said h => classify_ofFile_uncompressed hpath hsize h⟩
  case independent =>
    intro hpath path' contents' analyzer analyzer' yes said said' hpath' hlength h h' hfields
    rw [classify_ofFile_uncompressed hpath hsize h,
      classify_ofFile_uncompressed hpath' (hlength ▸ hsize) h']
    exact congrArg Except.ok (ImageReport.ofUncompressed_congr yes hlength hfields)
  case largeEnough =>
    intro opened analyzer k stated h hmem
    exact tooSmall_mem_classify h hmem

/-- A payload of one sector before a footer; only the fields that count are not filler. -/
def filledDisk (filler : UInt8) : Bytes :=
  List.replicate 512 filler ++ Footer.magicCookie.bytes ++ List.replicate 4 filler ++
    [0, 1, 0, 0] ++ List.replicate 44 filler ++ [0, 0, 0, 2] ++ List.replicate 448 filler

theorem ofUncompressed_filledDisk :
    ImageReport.ofUncompressed (filledDisk 0) true = ⟨.none, true, true, 512⟩ := by
  decide +kernel

theorem fields_filledDisk (i : Nat) (hi : i < 8 ∨ 12 ≤ i ∧ i < 16 ∨ 60 ≤ i ∧ i < 64) :
    (filledDisk 9)[(filledDisk 0).length - 512 + i]? =
      (filledDisk 0)[(filledDisk 0).length - 512 + i]? := by
  have hall : ∀ i < 64, i < 8 ∨ 12 ≤ i ∧ i < 16 ∨ 60 ≤ i ∧ i < 64 →
      (filledDisk 9)[(filledDisk 0).length - 512 + i]? =
        (filledDisk 0)[(filledDisk 0).length - 512 + i]? := by decide +kernel
  exact hall i (by omega) hi

theorem classify_filledDisk :
    (filledDisk 0).length < OpenImage.offsetLimit ∧
    (∃ more, classify ['a'] (.ok (.ofFile (filledDisk 0))) (.always true) =
      .ok ⟨⟨.none, true, true, 512⟩, more, [.ofFile (filledDisk 0)]⟩) ∧
    (classify ['b'] (.ok (.ofFile (filledDisk 9))) (.always true)).map (·.report) =
      .ok ⟨.none, true, true, 512⟩ ∧
    classify ['a', '.', 'x', 'z'] (.ok (.ofFile (filledDisk 0))) (.always false) =
      .ok ⟨⟨.xz, true, false, 1024⟩, [], []⟩ := by
  have hlength : (filledDisk 0).length = 1024 := by decide +kernel
  have hsize : (filledDisk 0).length < OpenImage.offsetLimit := by
    rw [hlength]
    decide
  have hpath : Compression.sniff ['a'] = .none := by decide
  have hsuffix : Compression.sniff ['a', '.', 'x', 'z'] = .xz := by decide
  obtain ⟨-, huncompressed, hindependent, -, -⟩ := classify_regular_file ['a'] (filledDisk 0) hsize
  obtain ⟨more, h⟩ := huncompressed hpath
  have hfirst := h (.always true) true [] rfl
  have hsecond := hindependent hpath ['b'] (filledDisk 9) (.always true) (.always true) true [] []
    (by decide) (by decide +kernel) rfl rfl (fun _ => fields_filledDisk)
  rw [hfirst, ofUncompressed_filledDisk] at hsecond
  rw [ofUncompressed_filledDisk] at hfirst
  have hcompressed := (classify_regular_file ['a', '.', 'x', 'z'] (filledDisk 0) hsize).1
    (by decide) (.always false)
  rw [hsuffix, hlength] at hcompressed
  exact ⟨hsize, ⟨_, hfirst⟩, hsecond, hcompressed⟩

end BootMedia
