import BootMedia.Proofs.Vhd.TailRecord

/-!
The footer of a fixed disk at the end of an image. The checksum of the finished record is the one
computed before it was filled in, so detection finds exactly the footer that was built, behind
any payload.
-/
namespace BootMedia

namespace Footer

/-- The checksum field is the only part of a record that depends on it. -/
private theorem encode_split (f : Footer) :
    ∃ pre post : Bytes, pre.length = Checksum.offset ∧ ∀ c : UInt32,
      { f with checksum := c }.encode.bytes = pre ++ (BigEndian.encode 4 c.toNat ++ post) := by
  refine ⟨?pre, ?post, ?length, fun c => ?join⟩
  case join => simp only [encode]; rw [List.append_assoc, List.append_assoc, List.append_assoc]
  case length => simp [Block.length_eq, Checksum.offset]

theorem covered_encode_checksum (f : Footer) (c : UInt32) :
    Checksum.covered { f with checksum := c }.encode = Checksum.covered f.encode := by
  obtain ⟨pre, post, hpre, hbytes⟩ := encode_split f
  have hcovered : ∀ d : UInt32,
      Checksum.covered { f with checksum := d }.encode = pre ++ post := by
    intro d
    have hwidth : Checksum.offset + Checksum.width =
        (pre ++ BigEndian.encode 4 d.toNat).length := by
      rw [List.length_append, hpre, BigEndian.length_encode]
      rfl
    rw [Checksum.covered, hwidth, hbytes, ← hpre, List.take_left, ← List.append_assoc,
      List.drop_left]
  exact (hcovered c).trans (hcovered f.checksum).symm

variable (size : UInt64) (timestamp : UInt32) (uniqueId : Option UniqueId) (tags : CreatorTags)

theorem checksum_fixed :
    (fixed size timestamp uniqueId tags).checksum =
      (fixed size timestamp uniqueId tags).expectedChecksum := by
  rw [expectedChecksum, fixed]
  exact (Checksum.ofRecord_congr (covered_encode_checksum _ _)).symm

/-- A fixed footer that is read back has its cookie, is supported, and its checksum agrees. -/
theorem ofFooter_fixed (fileSize : UInt64) :
    Detection.ofFooter (fixed size timestamp uniqueId tags) fileSize =
      .fixed ⟨fixed size timestamp uniqueId tags, fileSize - 512, none⟩ := by
  have hcookie : (fixed size timestamp uniqueId tags).hasCookie = true := by
    simp [fixed, hasCookie]
  have hsupported : (fixed size timestamp uniqueId tags).isSupported = true := by
    simp [fixed, isSupported]
  have hmismatch := (mismatch?_eq_none_iff _).mpr (checksum_fixed size timestamp uniqueId tags)
  simp only [Detection.ofFooter, hcookie, hsupported, hmismatch]
  rfl

end Footer

/-- An image with a fixed footer behind it is detected as that disk, whatever its payload. -/
theorem detect_append_fixed (p : Bytes) (size : UInt64) (timestamp : UInt32)
    (uniqueId : Option UniqueId) (tags : CreatorTags) (turns : List Turn)
    (hp : p.length + 512 < 2 ^ 64) (hturns : ∀ t ∈ turns, t.OnlyDelays) :
    (detect (Source.ofBytes (p ++ (Footer.fixed size timestamp uniqueId tags).encode.bytes))
      turns (UInt64.ofNat (p.length + 512))).outcome =
        .ok (.fixed ⟨Footer.fixed size timestamp uniqueId tags,
          UInt64.ofNat p.length, none⟩) := by
  obtain ⟨f, hf⟩ : ∃ f, f = Footer.fixed size timestamp uniqueId tags := ⟨_, rfl⟩
  have hlength : (p ++ f.encode.bytes).length = p.length + 512 := by
    rw [List.length_append, f.encode.length_eq]
  have hdetect := outcome_detect (p ++ f.encode.bytes) turns (by omega) (by omega) hturns
  have hpayload : UInt64.ofNat (p.length + 512) - 512 = UInt64.ofNat p.length := by
    rw [UInt64.ofNat_add]
    exact UInt64.add_sub_cancel _ _
  rw [tailRecord_append, Footer.decode_encode, hlength, hf, Footer.ofFooter_fixed,
    hpayload] at hdetect
  exact hdetect

/-- The payload may itself end in a footer: of two footers the last one is found. -/
theorem detect_second_footer :
    let first := (Footer.fixed 0 7 none Footer.defaultTags).encode.bytes
    let second := Footer.fixed 512 9 (some UniqueId.nil) Footer.defaultTags
    let turns : List Turn := [.limit 100, .fault (.system 4), .limit 1]
    first.length + 512 < 2 ^ 64 ∧ (∀ t ∈ turns, t.OnlyDelays) ∧
      (detect (Source.ofBytes (first ++ second.encode.bytes)) turns
        (UInt64.ofNat (first.length + 512))).outcome =
          .ok (.fixed ⟨second, UInt64.ofNat first.length, none⟩) := by
  intro first second turns
  have hfirst : first.length + 512 < 2 ^ 64 := by
    rw [show first.length = 512 from Block.length_eq _]
    decide
  have hturns : ∀ t ∈ turns, t.OnlyDelays := by decide
  exact ⟨hfirst, hturns, detect_append_fixed first 512 9 (some UniqueId.nil)
    Footer.defaultTags turns hfirst hturns⟩

end BootMedia
