import BootMedia.Proofs.Vhd.RoundTrip

/-!
Replacing one byte of a footer. Every byte of an intact record is guarded: those of the cookie,
the version and the disk type by comparison with a constant, all others by the checksum, which
guards its own field as well. So detection notices each single replacement.
-/
namespace BootMedia

/-- A record as a fixed disk carries it. -/
structure Intact (r : Record) : Prop where
  cookie : r.slice 0 8 (by decide) = Footer.magicCookie
  version : Footer.number r 12 4 (by decide) = Footer.version1.toNat
  diskType : Footer.number r 60 4 (by decide) = DiskType.fixed.toNat
  checksum : Footer.number r 64 4 (by decide) = (Checksum.ofRecord r).toNat

namespace Footer

theorem checksum_decode_eq_iff (r s : Record) :
    (decode r).checksum = (decode s).expectedChecksum ↔
      number r 64 4 (by decide) = (Checksum.ofRecord s).toNat := by
  rw [expectedChecksum_decode, decode, ← UInt32.toNat_inj,
    UInt32.toNat_ofNat_of_lt' (number_lt r 64 4 (by decide))]

/-- Every footer that is built is intact on disk. -/
theorem intact_encode_fixed (size : UInt64) (timestamp : UInt32) (uniqueId : Option UniqueId)
    (tags : CreatorTags) : Intact (fixed size timestamp uniqueId tags).encode := by
  obtain ⟨f, hf⟩ : ∃ f, f = fixed size timestamp uniqueId tags := ⟨_, rfl⟩
  have hcookie : f.hasCookie = true := by simp [hf, fixed, hasCookie]
  have hsupported : f.isSupported = true := by simp [hf, fixed, isSupported]
  have hchecksum : f.checksum = f.expectedChecksum := by
    rw [hf]
    exact checksum_fixed size timestamp uniqueId tags
  rw [← hf]
  rw [← decode_encode f] at hcookie hsupported hchecksum
  exact {
    cookie := (hasCookie_decode f.encode).mp hcookie
    version := ((isSupported_decode f.encode).mp hsupported).1
    diskType := ((isSupported_decode f.encode).mp hsupported).2
    checksum := (checksum_decode_eq_iff f.encode f.encode).mp hchecksum
  }

theorem number_congr {r s : Record} {start width : Nat} {h : start + width ≤ 512}
    (heq : r.slice start width h = s.slice start width h) :
    number r start width h = number s start width h := by
  rw [number, heq, number]

theorem number_ne {r s : Record} {start width : Nat} {h : start + width ≤ 512}
    (hne : r.slice start width h ≠ s.slice start width h) :
    number r start width h ≠ number s start width h := by
  intro heq
  apply hne
  apply Block.ext
  exact BigEndian.decode_injective (by rw [Block.length_eq, Block.length_eq]) heq

end Footer

namespace Detection

variable {r : Record} {fileSize : UInt64}

theorem ofFooter_decode_of_cookie_ne (hcookie : r.slice 0 8 (by decide) ≠ Footer.magicCookie) :
    ofFooter (Footer.decode r) fileSize = notVhd := by
  have hno : (Footer.decode r).hasCookie = false := by
    rw [Bool.eq_false_iff]
    exact mt (Footer.hasCookie_decode r).mp hcookie
  simp only [ofFooter, hno]
  rfl

theorem ofFooter_decode_of_unsupported
    (hcookie : r.slice 0 8 (by decide) = Footer.magicCookie)
    (hkind : ¬ (Footer.number r 12 4 (by decide) = Footer.version1.toNat ∧
      Footer.number r 60 4 (by decide) = DiskType.fixed.toNat)) :
    ofFooter (Footer.decode r) fileSize =
      unsupported (Footer.decode r).fileFormatVersion (Footer.decode r).diskType
        (fileSize - 512) := by
  have hyes : (Footer.decode r).hasCookie = true := (Footer.hasCookie_decode r).mpr hcookie
  have hno : (Footer.decode r).isSupported = false := by
    rw [Bool.eq_false_iff]
    exact mt (Footer.isSupported_decode r).mp hkind
  simp only [ofFooter, hyes, hno]
  rfl

theorem ofFooter_decode_of_damaged
    (hcookie : r.slice 0 8 (by decide) = Footer.magicCookie)
    (hversion : Footer.number r 12 4 (by decide) = Footer.version1.toNat)
    (htype : Footer.number r 60 4 (by decide) = DiskType.fixed.toNat)
    (hchecksum : Footer.number r 64 4 (by decide) ≠ (Checksum.ofRecord r).toNat) :
    ofFooter (Footer.decode r) fileSize =
      fixed ⟨Footer.decode r, fileSize - 512,
        some ⟨(Footer.decode r).checksum, (Footer.decode r).expectedChecksum⟩⟩ := by
  have hyes : (Footer.decode r).hasCookie = true := (Footer.hasCookie_decode r).mpr hcookie
  have hkind : (Footer.decode r).isSupported = true :=
    (Footer.isSupported_decode r).mpr ⟨hversion, htype⟩
  have hwrong : (Footer.decode r).checksum ≠ (Footer.decode r).expectedChecksum :=
    mt (Footer.checksum_decode_eq_iff r r).mp hchecksum
  simp only [ofFooter, hyes, hkind, Footer.mismatch?, hwrong]
  rfl

theorem mismatch_of_ofFooter {f : Footer} {vhd : FixedDisk}
    (h : ofFooter f fileSize = fixed vhd) : vhd.mismatch = f.mismatch? := by
  unfold ofFooter at h
  split at h
  · exact Detection.noConfusion h
  · split at h
    · exact Detection.noConfusion h
    · rw [← Detection.fixed.inj h]

end Detection

namespace Intact

variable {r : Record} {i : Nat} {b : UInt8} {fileSize : UInt64}

private theorem cookie_set (hr : Intact r) (hi : 8 ≤ i) :
    (r.set i b).slice 0 8 (by decide) = Footer.magicCookie :=
  (Block.slice_set_of_outside r i b 0 8 (by decide) (Or.inr hi)).trans hr.cookie

private theorem version_set (hr : Intact r) (hi : i < 12 ∨ 16 ≤ i) :
    Footer.number (r.set i b) 12 4 (by decide) = Footer.version1.toNat :=
  (Footer.number_congr (Block.slice_set_of_outside r i b 12 4 (by decide) hi)).trans hr.version

private theorem diskType_set (hr : Intact r) (hi : i < 60 ∨ 64 ≤ i) :
    Footer.number (r.set i b) 60 4 (by decide) = DiskType.fixed.toNat :=
  (Footer.number_congr (Block.slice_set_of_outside r i b 60 4 (by decide) hi)).trans hr.diskType

/-- The checksum field is compared with what it does not cover, everything else with a field
that stays as it was. -/
private theorem checksum_set_ne (hr : Intact r) (hi : i < 512) (hb : b ≠ r.byte i hi) :
    Footer.number (r.set i b) 64 4 (by decide) ≠ (Checksum.ofRecord (r.set i b)).toNat := by
  intro heq
  by_cases hfield : 64 ≤ i ∧ i < 68
  · have hsame := Checksum.ofRecord_set_inside r i b hfield.1 hfield.2
    have hstored := Footer.number_ne
      (Block.slice_set_ne r i b 64 4 (by decide) hfield.1 hfield.2 hb)
    rw [hsame, ← hr.checksum] at heq
    exact hstored heq
  · have houtside : i < 64 ∨ 68 ≤ i := by omega
    have hstored := Footer.number_congr
      (Block.slice_set_of_outside r i b 64 4 (by decide) houtside)
    have hchanged := Checksum.ofRecord_set_outside r i b hi houtside hb
    rw [hstored, hr.checksum] at heq
    exact hchanged (UInt32.toNat_inj.mp heq).symm

theorem mismatch?_set (hr : Intact r) (hi : i < 512) (hb : b ≠ r.byte i hi) :
    (Footer.decode (r.set i b)).mismatch? ≠ none := by
  intro hnone
  have hagrees := (Footer.mismatch?_eq_none_iff _).mp hnone
  exact hr.checksum_set_ne hi hb ((Footer.checksum_decode_eq_iff _ _).mp hagrees)

theorem ofFooter_set_cookie (hr : Intact r) (hi : i < 8) (hb : b ≠ r.byte i (by omega)) :
    Detection.ofFooter (Footer.decode (r.set i b)) fileSize = .notVhd := by
  apply Detection.ofFooter_decode_of_cookie_ne
  rw [← hr.cookie]
  exact Block.slice_set_ne r i b 0 8 (by decide) (Nat.zero_le i) (by omega) hb

theorem ofFooter_set_kind (hr : Intact r) (hi : 12 ≤ i ∧ i < 16 ∨ 60 ≤ i ∧ i < 64)
    (hb : b ≠ r.byte i (by omega)) :
    Detection.ofFooter (Footer.decode (r.set i b)) fileSize =
      .unsupported (Footer.decode (r.set i b)).fileFormatVersion
        (Footer.decode (r.set i b)).diskType (fileSize - 512) := by
  apply Detection.ofFooter_decode_of_unsupported (hr.cookie_set (by omega))
  rintro ⟨hversion, htype⟩
  rcases hi with hi | hi
  · have hne := Footer.number_ne (Block.slice_set_ne r i b 12 4 (by decide) hi.1 hi.2 hb)
    exact hne (hversion.trans hr.version.symm)
  · have hne := Footer.number_ne (Block.slice_set_ne r i b 60 4 (by decide) hi.1 hi.2 hb)
    exact hne (htype.trans hr.diskType.symm)

theorem ofFooter_set_guarded (hr : Intact r) (hi : i < 512) (hcookie : 8 ≤ i)
    (hversion : i < 12 ∨ 16 ≤ i) (htype : i < 60 ∨ 64 ≤ i) (hb : b ≠ r.byte i hi) :
    Detection.ofFooter (Footer.decode (r.set i b)) fileSize =
      .fixed ⟨Footer.decode (r.set i b), fileSize - 512,
        some ⟨(Footer.decode (r.set i b)).checksum,
          (Footer.decode (r.set i b)).expectedChecksum⟩⟩ :=
  Detection.ofFooter_decode_of_damaged (hr.cookie_set hcookie) (hr.version_set hversion)
    (hr.diskType_set htype) (hr.checksum_set_ne hi hb)

end Intact

theorem tailRecord_set (image : Bytes) (i : Nat) (b : UInt8) (hsize : 512 ≤ image.length) :
    tailRecord (image.set (image.length - 512 + i) b) = (tailRecord image).set i b := by
  have hidx : image.length - 512 + i - (image.length - 512) = i := by omega
  apply Block.ext
  rw [Block.bytes_set, bytes_tailRecord _ (by rw [List.length_set]; exact hsize), List.length_set,
    List.drop_set, if_neg (by omega), hidx, bytes_tailRecord image hsize]

theorem getElem?_tailRecord (image : Bytes) (i : Nat) (hsize : 512 ≤ image.length)
    (hi : i < 512) :
    image[image.length - 512 + i]? = some ((tailRecord image).byte i hi) := by
  rw [← List.getElem?_drop, ← bytes_tailRecord image hsize]
  exact List.getElem?_eq_getElem (by rw [Block.length_eq]; exact hi)

/-- One byte of an intact footer is replaced. Then the cookie is missed, or the version or type is
refused, or the disk is found with a checksum that disagrees; the payload stays what it was. -/
theorem detect_replaced_byte (image : Bytes) (i : Nat) (b : UInt8) (turns : List Turn)
    (hlow : 512 ≤ image.length) (hhigh : image.length < 2 ^ 64)
    (hintact : Intact (tailRecord image)) (hi : i < 512)
    (hb : image[image.length - 512 + i]? ≠ some b) (hturns : ∀ t ∈ turns, t.OnlyDelays) :
    let changed := image.set (image.length - 512 + i) b
    let outcome := (detect (Source.ofBytes changed) turns (UInt64.ofNat image.length)).outcome
    let found := Footer.decode (tailRecord changed)
    let payload := UInt64.ofNat (image.length - 512)
    (i < 8 → outcome = .ok .notVhd) ∧
    (12 ≤ i ∧ i < 16 ∨ 60 ≤ i ∧ i < 64 →
      outcome = .ok (.unsupported found.fileFormatVersion found.diskType payload)) ∧
    (8 ≤ i → (i < 12 ∨ 16 ≤ i) → (i < 60 ∨ 64 ≤ i) →
      outcome = .ok (.fixed ⟨found, payload, some ⟨found.checksum, found.expectedChecksum⟩⟩)) ∧
    ∃ answer, outcome = .ok answer ∧ ∀ vhd, answer = .fixed vhd → vhd.mismatch ≠ none := by
  intro changed outcome found payload
  have hchanged : changed.length = image.length := List.length_set
  have hnew : b ≠ (tailRecord image).byte i hi := by
    intro heq
    apply hb
    rw [getElem?_tailRecord image i hlow hi, heq]
  have hpayload : UInt64.ofNat image.length - 512 = payload := by
    have hsplit : image.length = image.length - 512 + 512 := by omega
    rw [hsplit, UInt64.ofNat_add]
    exact UInt64.add_sub_cancel _ _
  have hfound : found = Footer.decode ((tailRecord image).set i b) := by
    rw [← tailRecord_set image i b hlow]
  have houtcome : outcome = .ok (Detection.ofFooter found (UInt64.ofNat image.length)) := by
    have hdetect := outcome_detect changed turns (by omega) (by omega) hturns
    rwa [hchanged] at hdetect
  rw [houtcome, ← hpayload, hfound]
  refine ⟨?_, ?_, ?_, _, rfl, ?_⟩
  · intro hcookie
    rw [hintact.ofFooter_set_cookie hcookie hnew]
  · intro hkind
    rw [hintact.ofFooter_set_kind hkind hnew]
  · intro hcookie hversion htype
    rw [hintact.ofFooter_set_guarded hi hcookie hversion htype hnew]
  · intro vhd hvhd
    rw [Detection.mismatch_of_ofFooter hvhd]
    exact hintact.mismatch?_set hi hnew

/-- The first byte of the checksum field is replaced behind a payload of one byte. -/
theorem detect_replaced_checksum_byte :
    let image := [7] ++ (Footer.fixed 1 5 none Footer.defaultTags).encode.bytes
    let turns : List Turn := [.fault (.system 4), .limit 511]
    let changed := image.set (image.length - 512 + 64) 0
    let found := Footer.decode (tailRecord changed)
    (512 ≤ image.length ∧ image.length < 2 ^ 64 ∧ Intact (tailRecord image) ∧
      image[image.length - 512 + 64]? ≠ some 0 ∧ ∀ t ∈ turns, t.OnlyDelays) ∧
      (detect (Source.ofBytes changed) turns (UInt64.ofNat image.length)).outcome =
        .ok (.fixed ⟨found, UInt64.ofNat (image.length - 512),
          some ⟨found.checksum, found.expectedChecksum⟩⟩) := by
  intro image turns changed found
  have hlength : image.length = 513 := by
    rw [List.length_append, Block.length_eq]
    rfl
  have hlow : 512 ≤ image.length := by omega
  have hhigh : image.length < 2 ^ 64 := by omega
  have hintact : Intact (tailRecord image) := by
    rw [tailRecord_append]
    exact Footer.intact_encode_fixed 1 5 none Footer.defaultTags
  have hbyte : image[image.length - 512 + 64]? ≠ some 0 := by
    rw [hlength]
    decide +kernel
  have hturns : ∀ t ∈ turns, t.OnlyDelays := by decide
  have hresult := detect_replaced_byte image 64 0 turns hlow hhigh hintact (by decide) hbyte hturns
  exact ⟨⟨hlow, hhigh, hintact, hbyte, hturns⟩,
    hresult.2.2.1 (by decide) (by decide) (by decide)⟩

end BootMedia
