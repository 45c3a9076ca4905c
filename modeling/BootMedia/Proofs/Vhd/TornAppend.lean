import BootMedia.Proofs.Image.Classification
import BootMedia.Proofs.Vhd.Corruption

/-!
Detection behind an append that was cut. The last 512 bytes then begin inside the old image, up to
seven bytes of it before the new footer or eight and more. Main statement: these bytes begin with
a cookie only if the old image has one there, because no beginning of the cookie is also its end.
-/
namespace BootMedia

/-- No end of the cookie is a beginning of it. -/
theorem Footer.magicCookie_unbordered {j : Nat} (hpos : 0 < j) (hj : j < 8) :
    magicCookie.bytes.drop j ≠ magicCookie.bytes.take (8 - j) := by
  have hall : ∀ j < 8, 0 < j → magicCookie.bytes.drop j ≠ magicCookie.bytes.take (8 - j) := by
    decide
  exact hall j hj hpos

theorem Intact.take_bytes {r : Record} (h : Intact r) :
    r.bytes.take 8 = Footer.magicCookie.bytes := congrArg Block.bytes h.cookie

/-- An image is no virtual hard disk if and only if its last 512 bytes do not begin with the
cookie. -/
theorem outcome_detect_eq_notVhd_iff (image : Bytes) (turns : List Turn)
    (hlow : 512 ≤ image.length) (hhigh : image.length < 2 ^ 64)
    (hturns : ∀ t ∈ turns, t.OnlyDelays) :
    (detect (Source.ofBytes image) turns (UInt64.ofNat image.length)).outcome = .ok .notVhd ↔
      tailField image 0 8 ≠ Footer.magicCookie.bytes := by
  rw [outcome_detect image turns hlow hhigh hturns, Ne, ← Footer.hasCookie_tailRecord hlow]
  unfold Detection.ofFooter
  cases (Footer.decode (tailRecord image)).hasCookie <;>
    cases (Footer.decode (tailRecord image)).isSupported <;> simp

section Torn

variable {p record : Bytes} {k : Nat}

theorem length_torn (hrecord : record.length = 512) (hk : k < 512) :
    (p ++ record.take k).length = p.length + k := by
  rw [List.length_append, List.length_take]
  omega

theorem length_drop_torn (hk : k < 512) (hlow : 512 ≤ p.length + k) :
    (p.drop (p.length + k - 512)).length = 512 - k := by
  rw [List.length_drop]
  omega

theorem tailField_torn_of_le (hrecord : record.length = 512) (hk : k ≤ 504)
    (hlow : 512 ≤ p.length + k) :
    tailField (p ++ record.take k) 0 8 = (p.drop (p.length + k - 512)).take 8 := by
  rw [tailField, length_torn hrecord (by omega), Nat.add_zero,
    List.drop_append_of_le_length (by omega),
    List.take_append_of_le_length (by rw [length_drop_torn (by omega) hlow]; omega)]

theorem tailField_torn_of_lt (hrecord : record.length = 512) (hk : k < 512) (hcut : 504 < k)
    (hlow : 512 ≤ p.length + k) :
    tailField (p ++ record.take k) 0 8 =
      p.drop (p.length + k - 512) ++ (record.take 8).take (8 - (512 - k)) := by
  have hold := length_drop_torn hk hlow
  rw [tailField, length_torn hrecord hk, Nat.add_zero,
    List.drop_append_of_le_length (by omega), List.take_append, hold,
    List.take_of_length_le (by rw [hold]; omega), List.take_take, List.take_take]
  have hcount : min (8 - (512 - k)) k = min (8 - (512 - k)) 8 := by omega
  rw [hcount]

/-- The cookie is at the beginning of the last 512 bytes if and only if the old image has it
there. -/
theorem tailField_torn_eq_cookie_iff (hrecord : record.length = 512)
    (hcookie : record.take 8 = Footer.magicCookie.bytes) (hk : k < 512)
    (hlow : 512 ≤ p.length + k) :
    tailField (p ++ record.take k) 0 8 = Footer.magicCookie.bytes ↔
      (p.drop (p.length + k - 512)).take 8 = Footer.magicCookie.bytes := by
  by_cases hcut : k ≤ 504
  · rw [tailField_torn_of_le hrecord hcut hlow]
  · have hold := length_drop_torn hk hlow
    rw [tailField_torn_of_lt hrecord hk (by omega) hlow, hcookie]
    constructor
    · -- The record would begin with the end of the cookie.
      intro hspelled
      have hend := congrArg (List.drop (512 - k)) hspelled
      rw [List.drop_left' hold] at hend
      exact absurd hend.symm (Footer.magicCookie_unbordered (by omega) (by omega))
    · intro hspelled
      have hlength := congrArg List.length hspelled
      rw [List.length_take, hold, Block.length_eq] at hlength
      omega

end Torn

/-- An image with the first `k` bytes of a new footer behind it is a virtual hard disk only if the
cookie of an older footer happens to stand where the last 512 bytes begin, which takes a cut at 504
bytes or before. Without that it is detected and classified as the larger image it is. -/
theorem detect_torn_append (p : Bytes) (size : UInt64) (timestamp : UInt32)
    (uniqueId : Option UniqueId) (tags : CreatorTags) (k : Nat) (turns : List Turn) (hk : k < 512)
    (hlow : 512 ≤ p.length + k) (hhigh : p.length + k < 2 ^ 64)
    (hturns : ∀ t ∈ turns, t.OnlyDelays) :
    let image := p ++ (Footer.fixed size timestamp uniqueId tags).encode.bytes.take k
    let spelled := (p.drop (p.length + k - 512)).take 8 = Footer.magicCookie.bytes
    (spelled → k ≤ 504) ∧
    ((detect (Source.ofBytes image) turns (UInt64.ofNat (p.length + k))).outcome = .ok .notVhd ↔
      ¬ spelled) ∧
    (¬ spelled → p.length + k < OpenImage.offsetLimit →
      ∀ (path : PathText) (analyzer : Analyzer) yes said, Compression.sniff path = .none →
      analyzer (.ofFile image) = .bootable yes said → ∃ more,
        classify path (.ok (.ofFile image)) analyzer =
          .ok ⟨⟨.none, yes, false, UInt64.ofNat (p.length + k)⟩, said ++ more,
            [.ofFile image]⟩) := by
  intro image spelled
  have hrecord := (Footer.fixed size timestamp uniqueId tags).encode.length_eq
  have hlength : image.length = p.length + k := length_torn hrecord hk
  have hintact := Footer.intact_encode_fixed size timestamp uniqueId tags
  have hspelled : tailField image 0 8 = Footer.magicCookie.bytes ↔ spelled :=
    tailField_torn_eq_cookie_iff hrecord hintact.take_bytes hk hlow
  refine ⟨?inside, ?detected, ?classified⟩
  case inside =>
    intro h
    have height := congrArg List.length h
    rw [List.length_take, length_drop_torn hk hlow, Block.length_eq] at height
    omega
  case detected =>
    rw [← hlength, outcome_detect_eq_notVhd_iff image turns (hlength ▸ hlow) (hlength ▸ hhigh)
      hturns, Ne, hspelled]
  case classified =>
    intro hno hlimit path analyzer yes said hpath hverdict
    refine ⟨OpenImage.searchNotices image, ?_⟩
    rw [classify_ofFile_uncompressed hpath (hlength ▸ hlimit) hverdict,
      ImageReport.ofUncompressed, if_pos (.inr (mt hspelled.mp hno)), hlength]

/-- The old image ends in the first half of the cookie, and the new footer is cut four bytes before
its end. -/
theorem detect_torn_append_half_cookie :
    let p : Bytes := List.replicate 1020 0 ++ [99, 111, 110, 101]
    let image := p ++ (Footer.fixed 1024 7 none Footer.defaultTags).encode.bytes.take 508
    let turns : List Turn := [.limit 100, .fault (.system 4), .limit 1]
    512 ≤ p.length + 508 ∧ p.length + 508 < 2 ^ 64 ∧ (∀ t ∈ turns, t.OnlyDelays) ∧
      (detect (Source.ofBytes image) turns 1532).outcome = .ok .notVhd ∧
      ∃ more, classify ['a'] (.ok (.ofFile image)) (.always true) =
        .ok ⟨⟨.none, true, false, 1532⟩, more, [.ofFile image]⟩ := by
  intro p image turns
  have hlength : p.length = 1024 := by
    rw [List.length_append, List.length_replicate]
    rfl
  have hlow : 512 ≤ p.length + 508 := by omega
  have hhigh : p.length + 508 < 2 ^ 64 := by omega
  have hturns : ∀ t ∈ turns, t.OnlyDelays := by decide
  have hend : p.drop 1020 = [99, 111, 110, 101] := List.drop_left' List.length_replicate
  have hno : (p.drop (p.length + 508 - 512)).take 8 ≠ Footer.magicCookie.bytes := by
    rw [hlength, hend]
    decide
  obtain ⟨-, hdetect, hclassify⟩ := detect_torn_append p 1024 7 none Footer.defaultTags 508 turns
    (by decide) hlow hhigh hturns
  have hdetected := hdetect.mpr hno
  obtain ⟨more, hclassified⟩ := hclassify hno (by rw [hlength]; decide) ['a'] (.always true) true []
    (by decide) rfl
  rw [hlength] at hdetected hclassified
  exact ⟨hlow, hhigh, hturns, hdetected, more, hclassified⟩

end BootMedia
