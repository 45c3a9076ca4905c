import BootMedia.Proofs.Vhd.RecordLayout
import BootMedia.Proofs.Vhd.RoundTrip

/-!
The records that footers of fixed disks are written as. What such a footer does not take from its
arguments is constant or follows from them, so a record is one of them exactly when it agrees with
that. Main statement: these records are characterized field by field, the arguments are read off
them, and two choices of arguments give one record only where one of them has no identity and the
other one has the nil identity.
-/
namespace BootMedia.Footer

def tags (f : Footer) : CreatorTags := ⟨f.creatorApp, f.creatorVersion, f.creatorHostOs⟩

/-- A footer has in every field what that of a fixed disk of its size has there. The time, the tags
and the identity are free. -/
structure FitsFixed (f : Footer) : Prop where
  cookie : f.cookie.bytes = "conectix".toList.map fun c => UInt8.ofNat c.toNat
  features : f.features = 2
  fileFormatVersion : f.fileFormatVersion = 0x00010000
  dataOffset : f.dataOffset = 0xFFFFFFFFFFFFFFFF
  sizes : f.originalSize = f.currentSize
  geometry : f.geometry = Chs.ofSize f.currentSize
  diskType : f.diskType = 2
  savedState : f.savedState = 0
  reserved : ∀ x ∈ f.reserved.bytes, x = 0
  checksum : f.mismatch? = none

theorem bytes_magicCookie :
    magicCookie.bytes = "conectix".toList.map fun c => UInt8.ofNat c.toNat := by decide

variable (size : UInt64) (timestamp : UInt32) (uniqueId : Option UniqueId) (tags : CreatorTags)

theorem fitsFixed_fixed : (fixed size timestamp uniqueId tags).FitsFixed where
  cookie := bytes_magicCookie
  features := rfl
  fileFormatVersion := rfl
  dataOffset := rfl
  sizes := rfl
  geometry := rfl
  diskType := rfl
  savedState := rfl
  reserved := fun _ hx => List.eq_of_mem_replicate hx
  checksum := (mismatch?_eq_none_iff _).mpr (checksum_fixed size timestamp uniqueId tags)

/-- A footer that is as that of a fixed disk up to its checksum, and carries its own, is that
footer. -/
theorem fixed_eq_of_checksum {f : Footer}
    (hrest : { fixed size timestamp uniqueId tags with checksum := f.checksum } = f)
    (hchecksum : f.checksum = f.expectedChecksum) : fixed size timestamp uniqueId tags = f := by
  obtain ⟨g, hg⟩ : ∃ g, fixed size timestamp uniqueId tags = g := ⟨_, rfl⟩
  have hown : g.checksum = g.expectedChecksum := hg ▸ checksum_fixed size timestamp uniqueId tags
  rw [hg] at hrest ⊢
  -- The checksum field is not covered, so both footers are to carry the same checksum.
  have hsame : f.checksum = g.checksum := by
    rw [hchecksum, hown, expectedChecksum, expectedChecksum, ← hrest]
    exact Checksum.ofRecord_congr (covered_encode_checksum g _)
  rw [← hrest, hsame]

theorem fixed_eq_iff {f : Footer} :
    fixed size timestamp uniqueId tags = f ↔
      f.FitsFixed ∧ f.currentSize = size ∧ f.timestamp = timestamp ∧ f.tags = tags ∧
        f.uniqueId = uniqueId.getD UniqueId.nil := by
  constructor
  · rintro rfl
    exact ⟨fitsFixed_fixed size timestamp uniqueId tags, rfl, rfl, rfl, rfl⟩
  · rintro ⟨hfits, rfl, rfl, rfl, hid⟩
    have hcookie : f.cookie = magicCookie := Block.ext (hfits.cookie.trans bytes_magicCookie.symm)
    have hreserved : f.reserved = Block.zero 427 :=
      Block.ext (List.eq_replicate_iff.mpr ⟨f.reserved.length_eq, hfits.reserved⟩)
    apply fixed_eq_of_checksum
    · apply Footer.ext
      · exact hcookie.symm
      · exact hfits.features.symm
      · exact hfits.fileFormatVersion.symm
      · exact hfits.dataOffset.symm
      · rfl
      · rfl
      · rfl
      · rfl
      · exact hfits.sizes.symm
      · rfl
      · exact hfits.geometry.symm
      · exact hfits.diskType.symm
      · rfl
      · exact hid.symm
      · exact hfits.savedState.symm
      · exact hreserved.symm
    · exact (mismatch?_eq_none_iff f).mp hfits.checksum

theorem encode_fixed_eq_iff (r : Record) :
    (fixed size timestamp uniqueId tags).encode = r ↔
      (decode r).FitsFixed ∧ (decode r).currentSize = size ∧
        (decode r).timestamp = timestamp ∧ (decode r).tags = tags ∧
          (decode r).uniqueId = uniqueId.getD UniqueId.nil := by
  rw [encode_eq_iff_decode, eq_comm, fixed_eq_iff]

/-- Identities that are written alike are the same, or one is missing and the other one nil. -/
theorem getD_nil_eq_iff (u v : Option UniqueId) :
    u.getD UniqueId.nil = v.getD UniqueId.nil ↔
      u = v ∨ u = none ∧ v = some UniqueId.nil ∨ u = some UniqueId.nil ∧ v = none := by
  cases u with
  | none => cases v <;> simp [eq_comm]
  | some i => cases v <;> simp

/-- A record is the footer of some fixed disk if and only if its fields fit; which disk that is can
be read off it, and the footers of different arguments differ unless an identity is missing in one
of them and nil in the other. -/
theorem encode_fixed_characterized :
    (∀ r : Record, (∃ size timestamp uniqueId tags,
      (fixed size timestamp uniqueId tags).encode = r) ↔ (decode r).FitsFixed) ∧
    (∀ size timestamp uniqueId tags (r : Record),
      (fixed size timestamp uniqueId tags).encode = r ↔
        (decode r).FitsFixed ∧ (decode r).currentSize = size ∧
          (decode r).timestamp = timestamp ∧ (decode r).tags = tags ∧
            (decode r).uniqueId = uniqueId.getD UniqueId.nil) ∧
    ∀ size timestamp uniqueId tags size' timestamp' uniqueId' tags',
      (fixed size timestamp uniqueId tags).encode =
          (fixed size' timestamp' uniqueId' tags').encode ↔
        size = size' ∧ timestamp = timestamp' ∧ tags = tags' ∧
          (uniqueId = uniqueId' ∨ uniqueId = none ∧ uniqueId' = some UniqueId.nil ∨
            uniqueId = some UniqueId.nil ∧ uniqueId' = none) := by
  refine ⟨fun r => ⟨?fits, fun hfits => ?built⟩, encode_fixed_eq_iff, ?injective⟩
  case fits =>
    rintro ⟨size, timestamp, uniqueId, tags, hr⟩
    exact ((encode_fixed_eq_iff _ _ _ _ r).mp hr).1
  case built =>
    exact ⟨_, _, some (decode r).uniqueId, _,
      (encode_fixed_eq_iff _ _ _ _ r).mpr ⟨hfits, rfl, rfl, rfl, rfl⟩⟩
  case injective =>
    intro size timestamp uniqueId tags size' timestamp' uniqueId' tags'
    rw [encode_fixed_eq_iff, decode_encode, ← getD_nil_eq_iff]
    constructor
    · rintro ⟨-, hsize, htime, htags, hid⟩
      exact ⟨hsize.symm, htime.symm, htags.symm, hid.symm⟩
    · rintro ⟨rfl, rfl, rfl, hid⟩
      exact ⟨fitsFixed_fixed _ _ _ _, rfl, rfl, rfl, hid.symm⟩

end BootMedia.Footer
