import BootMedia.Vhd.Footer
import BootMedia.Proofs.Bytes.Fields

/-!
A footer and its record determine each other. Main statements: decoding an encoded footer gives
every field back, and encoding a decoded record rewrites every byte of it.
-/
namespace BootMedia

/-- The field at the front of what follows a place of a block, and what follows that field. -/
private theorem field_at {n : Nat} {r : Block n} {field rest : Bytes} (place width : Nat)
    (hin : place + width ≤ n) (h : r.bytes.drop place = field ++ rest)
    (hwidth : field.length = width) :
    (r.slice place width hin).bytes = field ∧ r.bytes.drop (place + width) = rest := by
  subst hwidth
  constructor
  · simp [Block.slice, h]
  · rw [← List.drop_drop, h, List.drop_left]

namespace Chs

theorem unpack_pack (g : Chs) : unpack g.pack = g := by
  have hnumber : BigEndian.decode (g.pack.slice 0 2 (by decide)).bytes = g.cylinders.toNat := by
    have hslice : (g.pack.slice 0 2 (by decide)).bytes = BigEndian.encode 2 g.cylinders.toNat := by
      simp [Block.slice, pack]
    have hlt : g.cylinders.toNat < 256 ^ 2 := g.cylinders.toNat_lt
    rw [hslice, BigEndian.decode_encode, Nat.mod_eq_of_lt hlt]
  apply Chs.ext
  · simp [unpack, hnumber]
  · rfl
  · rfl

theorem pack_unpack (b : Block 4) : (unpack b).pack = b := by
  have hsize : (b.slice 0 2 (by decide)).bytes.length = 2 := Block.length_eq _
  have hlt := BigEndian.decode_lt (b.slice 0 2 (by decide)).bytes
  rw [hsize] at hlt
  have hword : BigEndian.encode 2 (UInt16.ofNat (BigEndian.decode
      (b.slice 0 2 (by decide)).bytes)).toNat = (b.slice 0 2 (by decide)).bytes := by
    rw [UInt16.toNat_ofNat_of_lt' hlt]
    simpa only [hsize] using BigEndian.encode_decode (b.slice 0 2 (by decide)).bytes
  have hpair : [b.byte 2 (by decide), b.byte 3 (by decide)] =
      (b.slice 2 1 (by decide)).bytes ++ (b.slice 3 1 (by decide)).bytes := by
    rw [← Block.singleton_byte, ← Block.singleton_byte]
    rfl
  have join := Block.slice_append_slice b
  apply Block.ext
  simp only [pack, unpack]
  rw [hword, hpair, ← List.append_assoc, join 0 2 1, join 0 3 1]
  exact Block.slice_all b

end Chs

namespace Footer

theorem number_lt (r : Record) (start width : Nat) (h : start + width ≤ 512) :
    number r start width h < 256 ^ width := by
  simpa only [number, (r.slice start width h).length_eq] using
    BigEndian.decode_lt (r.slice start width h).bytes

theorem encode_number (r : Record) (start width : Nat) (h : start + width ≤ 512) :
    BigEndian.encode width (number r start width h) = (r.slice start width h).bytes := by
  simpa only [number, (r.slice start width h).length_eq] using
    BigEndian.encode_decode (r.slice start width h).bytes

private theorem word_of_slice {r : Record} {start : Nat} {h : start + 4 ≤ 512} {x : UInt32}
    (hslice : (r.slice start 4 h).bytes = BigEndian.encode 4 x.toNat) :
    UInt32.ofNat (number r start 4 h) = x := by
  have hlt : x.toNat < 256 ^ 4 := x.toNat_lt
  rw [number, hslice, BigEndian.decode_encode, Nat.mod_eq_of_lt hlt, UInt32.ofNat_toNat]

private theorem long_of_slice {r : Record} {start : Nat} {h : start + 8 ≤ 512} {x : UInt64}
    (hslice : (r.slice start 8 h).bytes = BigEndian.encode 8 x.toNat) :
    UInt64.ofNat (number r start 8 h) = x := by
  have hlt : x.toNat < 256 ^ 8 := x.toNat_lt
  rw [number, hslice, BigEndian.decode_encode, Nat.mod_eq_of_lt hlt, UInt64.ofNat_toNat]

/-- Every field is read back as it was written. -/
theorem decode_encode (f : Footer) : decode f.encode = f := by
  have h : f.encode.bytes.drop 0 = f.encode.bytes := List.drop_zero
  conv at h => rhs; simp only [encode, List.append_assoc]
  -- The record is walked from its start; what follows a field is where the next one begins.
  obtain ⟨hcookie, h⟩ := field_at 0 8 (by decide) h f.cookie.length_eq
  obtain ⟨hfeatures, h⟩ := field_at 8 4 (by decide) h (BigEndian.length_encode 4 _)
  obtain ⟨hversion, h⟩ := field_at 12 4 (by decide) h (BigEndian.length_encode 4 _)
  obtain ⟨hoffset, h⟩ := field_at 16 8 (by decide) h (BigEndian.length_encode 8 _)
  obtain ⟨htime, h⟩ := field_at 24 4 (by decide) h (BigEndian.length_encode 4 _)
  obtain ⟨happ, h⟩ := field_at 28 4 (by decide) h f.creatorApp.length_eq
  obtain ⟨hcreator, h⟩ := field_at 32 4 (by decide) h (BigEndian.length_encode 4 _)
  obtain ⟨hhost, h⟩ := field_at 36 4 (by decide) h f.creatorHostOs.length_eq
  obtain ⟨horiginal, h⟩ := field_at 40 8 (by decide) h (BigEndian.length_encode 8 _)
  obtain ⟨hcurrent, h⟩ := field_at 48 8 (by decide) h (BigEndian.length_encode 8 _)
  obtain ⟨hgeometry, h⟩ := field_at 56 4 (by decide) h f.geometry.pack.length_eq
  obtain ⟨htype, h⟩ := field_at 60 4 (by decide) h (BigEndian.length_encode 4 _)
  obtain ⟨hchecksum, h⟩ := field_at 64 4 (by decide) h (BigEndian.length_encode 4 _)
  obtain ⟨hid, h⟩ := field_at 68 16 (by decide) h f.uniqueId.length_eq
  obtain ⟨hsaved, h⟩ := field_at 84 1 (by decide) h List.length_singleton
  obtain ⟨hreserved, _⟩ :=
    field_at 85 427 (by decide) (h.trans (List.append_nil _).symm) f.reserved.length_eq
  have hpacked : f.encode.slice 56 4 (by decide) = f.geometry.pack := Block.ext hgeometry
  apply Footer.ext
  · exact Block.ext hcookie
  · exact word_of_slice hfeatures
  · exact word_of_slice hversion
  · exact long_of_slice hoffset
  · exact word_of_slice htime
  · exact Block.ext happ
  · exact word_of_slice hcreator
  · exact Block.ext hhost
  · exact long_of_slice horiginal
  · exact long_of_slice hcurrent
  · exact (congrArg Chs.unpack hpacked).trans (Chs.unpack_pack f.geometry)
  · exact word_of_slice htype
  · exact word_of_slice hchecksum
  · exact Block.ext hid
  · simp only [decode, Block.byte_of_slice hsaved]
  · exact Block.ext hreserved

private theorem encode_word (r : Record) (start : Nat) (h : start + 4 ≤ 512) :
    BigEndian.encode 4 (UInt32.ofNat (number r start 4 h)).toNat = (r.slice start 4 h).bytes := by
  rw [UInt32.toNat_ofNat_of_lt' (number_lt r start 4 h), encode_number]

private theorem encode_long (r : Record) (start : Nat) (h : start + 8 ≤ 512) :
    BigEndian.encode 8 (UInt64.ofNat (number r start 8 h)).toNat = (r.slice start 8 h).bytes := by
  rw [UInt64.toNat_ofNat_of_lt' (number_lt r start 8 h), encode_number]

/-- Every byte is written as it was read. -/
theorem encode_decode (r : Record) : (decode r).encode = r := by
  apply Block.ext
  simp only [encode, decode, encode_word, encode_long, Chs.pack_unpack, Block.singleton_byte]
  have join := Block.slice_append_slice r
  rw [join 0 8 4, join 0 12 4, join 0 16 8, join 0 24 4, join 0 28 4, join 0 32 4, join 0 36 4,
    join 0 40 8, join 0 48 8, join 0 56 4, join 0 60 4, join 0 64 4, join 0 68 16, join 0 84 1,
    join 0 85 427]
  exact Block.slice_all r

end Footer

end BootMedia
