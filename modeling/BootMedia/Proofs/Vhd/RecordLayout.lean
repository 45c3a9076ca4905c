import BootMedia.Proofs.Vhd.Codec

/-!
The record of a footer as a table of places. A number is the sum of the bytes at its place, each
counted by its distance from the end of the field; raw fields are slices. Main statement: encoding
and decoding are the two ways to read this table, so they are inverse to each other, and the fields
fill the record without a gap or an overlap.
-/
namespace BootMedia

/-- The number in the `width` bytes from offset `start`, the first byte counting most. -/
def Block.numberAt {n : Nat} (r : Block n) (start width : Nat) : Nat :=
  ∑ i ∈ Finset.range width, (r.bytes.getD (start + i) 0).toNat * 256 ^ (width - 1 - i)

namespace BigEndian

theorem decode_eq_sum (b : Bytes) :
    decode b = ∑ i ∈ Finset.range b.length, (b.getD i 0).toNat * 256 ^ (b.length - 1 - i) := by
  induction b using List.reverseRecOn with
  | nil => rfl
  | append_singleton b x ih =>
    have hlast : ((b ++ [x]).getD b.length 0).toNat * 256 ^ (b.length + 1 - 1 - b.length) =
        x.toNat := by simp
    -- Every byte before the last one counts 256 times as much as it did without it.
    have hearlier : ∀ i ∈ Finset.range b.length,
        ((b ++ [x]).getD i 0).toNat * 256 ^ (b.length + 1 - 1 - i) =
          (b.getD i 0).toNat * 256 ^ (b.length - 1 - i) * 256 := by
      intro i hi
      have hin : i < b.length := Finset.mem_range.mp hi
      have hexponent : b.length + 1 - 1 - i = b.length - 1 - i + 1 := by omega
      rw [List.getD_append b [x] 0 i hin, hexponent, Nat.pow_succ, Nat.mul_assoc]
    rw [decode_append_singleton, List.length_append, List.length_singleton, Finset.sum_range_succ,
      hlast, Finset.sum_congr rfl hearlier, ← Finset.sum_mul, ih]

/-- Numbers of one word type are kept in blocks of a width, both ways without loss. -/
structure Stores (width : Nat) (Word : Type) (toNat : Word → Nat) (ofNat : Nat → Word) : Prop where
  read_stored : ∀ w, ofNat (decode (block width (toNat w)).bytes) = w
  stored_read : ∀ b : Block width, block width (toNat (ofNat (decode b.bytes))) = b

theorem stores_of_size {width : Nat} {Word : Type} {toNat : Word → Nat} {ofNat : Nat → Word}
    (hsmall : ∀ w, toNat w < 256 ^ width) (hword : ∀ w, ofNat (toNat w) = w)
    (hnumber : ∀ n < 256 ^ width, toNat (ofNat n) = n) : Stores width Word toNat ofNat where
  read_stored w := by
    change ofNat (decode (encode width (toNat w))) = w
    rw [decode_encode, Nat.mod_eq_of_lt (hsmall w), hword]
  stored_read b := by
    have hlt : decode b.bytes < 256 ^ width := by
      simpa only [b.length_eq] using decode_lt b.bytes
    have hback : encode width (decode b.bytes) = b.bytes := by
      simpa only [b.length_eq] using encode_decode b.bytes
    apply Block.ext
    rw [hnumber _ hlt]
    exact hback

theorem stores_uint16 : Stores 2 UInt16 UInt16.toNat UInt16.ofNat :=
  stores_of_size UInt16.toNat_lt (fun _ => UInt16.ofNat_toNat) fun _ => UInt16.toNat_ofNat_of_lt'

theorem stores_uint32 : Stores 4 UInt32 UInt32.toNat UInt32.ofNat :=
  stores_of_size UInt32.toNat_lt (fun _ => UInt32.ofNat_toNat) fun _ => UInt32.toNat_ofNat_of_lt'

theorem stores_uint64 : Stores 8 UInt64 UInt64.toNat UInt64.ofNat :=
  stores_of_size UInt64.toNat_lt (fun _ => UInt64.ofNat_toNat) fun _ => UInt64.toNat_ofNat_of_lt'

end BigEndian

namespace Block

variable {n : Nat} (r : Block n)

theorem numberAt_eq_decode (start width : Nat) (h : start + width ≤ n) :
    r.numberAt start width = BigEndian.decode (r.slice start width h).bytes := by
  have hbyte : ∀ i ∈ Finset.range width,
      (r.bytes.getD (start + i) 0).toNat * 256 ^ (width - 1 - i) =
        ((r.slice start width h).bytes.getD i 0).toNat * 256 ^ (width - 1 - i) := by
    intro i hi
    have hin : i < width := Finset.mem_range.mp hi
    have hread : (r.slice start width h).bytes[i]? = r.bytes[start + i]? := by
      rw [slice, List.getElem?_take_of_lt hin, List.getElem?_drop]
    rw [List.getD_eq_getElem?_getD, List.getD_eq_getElem?_getD, hread]
  rw [BigEndian.decode_eq_sum, (r.slice start width h).length_eq, numberAt,
    Finset.sum_congr rfl hbyte]

theorem numberAt_slice (start width inner count : Nat) (h : start + width ≤ n)
    (hinner : inner + count ≤ width) :
    (r.slice start width h).numberAt inner count = r.numberAt (start + inner) count := by
  rw [numberAt_eq_decode _ inner count hinner,
    numberAt_eq_decode r (start + inner) count (by omega)]
  simp only [slice, List.drop_take, List.take_take, List.drop_drop]
  rw [Nat.min_eq_left (by omega)]

theorem toNat_byte (i : Nat) (h : i < n) : (r.byte i h).toNat = r.numberAt i 1 := by
  rw [numberAt_eq_decode r i 1 h, ← singleton_byte r i h]
  simp [BigEndian.decode]

end Block

namespace Footer

/-- A footer as the bytes of a record state it: each field at its offset, numbers with the first
byte counting most. -/
structure LaidOut (f : Footer) (r : Record) : Prop where
  cookie : f.cookie = r.slice 0 8 (by decide)
  features : f.features.toNat = r.numberAt 8 4
  fileFormatVersion : f.fileFormatVersion.toNat = r.numberAt 12 4
  dataOffset : f.dataOffset.toNat = r.numberAt 16 8
  timestamp : f.timestamp.toNat = r.numberAt 24 4
  creatorApp : f.creatorApp = r.slice 28 4 (by decide)
  creatorVersion : f.creatorVersion.toNat = r.numberAt 32 4
  creatorHostOs : f.creatorHostOs = r.slice 36 4 (by decide)
  originalSize : f.originalSize.toNat = r.numberAt 40 8
  currentSize : f.currentSize.toNat = r.numberAt 48 8
  cylinders : f.geometry.cylinders.toNat = r.numberAt 56 2
  heads : f.geometry.heads.toNat = r.numberAt 58 1
  sectorsPerTrack : f.geometry.sectorsPerTrack.toNat = r.numberAt 59 1
  diskType : f.diskType.toNat = r.numberAt 60 4
  checksum : f.checksum.toNat = r.numberAt 64 4
  uniqueId : f.uniqueId = r.slice 68 16 (by decide)
  savedState : f.savedState.toNat = r.numberAt 84 1
  reserved : f.reserved = r.slice 85 427 (by decide)

private theorem toNat_word (r : Record) (start : Nat) (h : start + 4 ≤ 512) :
    (UInt32.ofNat (number r start 4 h)).toNat = r.numberAt start 4 := by
  rw [UInt32.toNat_ofNat_of_lt' (number_lt r start 4 h), number, Block.numberAt_eq_decode]

private theorem toNat_long (r : Record) (start : Nat) (h : start + 8 ≤ 512) :
    (UInt64.ofNat (number r start 8 h)).toNat = r.numberAt start 8 := by
  rw [UInt64.toNat_ofNat_of_lt' (number_lt r start 8 h), number, Block.numberAt_eq_decode]

private theorem toNat_cylinders (b : Block 4) :
    (Chs.unpack b).cylinders.toNat = b.numberAt 0 2 := by
  have hlt := BigEndian.decode_lt (b.slice 0 2 (by decide)).bytes
  rw [(b.slice 0 2 (by decide)).length_eq] at hlt
  rw [Chs.unpack, UInt16.toNat_ofNat_of_lt' hlt, Block.numberAt_eq_decode]

theorem laidOut_decode (r : Record) : (decode r).LaidOut r where
  cookie := rfl
  features := toNat_word r 8 _
  fileFormatVersion := toNat_word r 12 _
  dataOffset := toNat_long r 16 _
  timestamp := toNat_word r 24 _
  creatorApp := rfl
  creatorVersion := toNat_word r 32 _
  creatorHostOs := rfl
  originalSize := toNat_long r 40 _
  currentSize := toNat_long r 48 _
  cylinders := (toNat_cylinders _).trans (r.numberAt_slice 56 4 0 2 _ (by decide))
  heads := (Block.toNat_byte _ 2 (by decide)).trans (r.numberAt_slice 56 4 2 1 _ (by decide))
  sectorsPerTrack :=
    (Block.toNat_byte _ 3 (by decide)).trans (r.numberAt_slice 56 4 3 1 _ (by decide))
  diskType := toNat_word r 60 _
  checksum := toNat_word r 64 _
  uniqueId := rfl
  savedState := r.toNat_byte 84 (by decide)
  reserved := rfl

/-- A record lays out one footer only. -/
theorem LaidOut.unique {f g : Footer} {r : Record} (hf : f.LaidOut r) (hg : g.LaidOut r) :
    f = g := by
  have hgeometry : f.geometry = g.geometry := by
    apply Chs.ext
    · exact UInt16.toNat_inj.mp (hf.cylinders.trans hg.cylinders.symm)
    · exact UInt8.toNat_inj.mp (hf.heads.trans hg.heads.symm)
    · exact UInt8.toNat_inj.mp (hf.sectorsPerTrack.trans hg.sectorsPerTrack.symm)
  apply Footer.ext
  · exact hf.cookie.trans hg.cookie.symm
  · exact UInt32.toNat_inj.mp (hf.features.trans hg.features.symm)
  · exact UInt32.toNat_inj.mp (hf.fileFormatVersion.trans hg.fileFormatVersion.symm)
  · exact UInt64.toNat_inj.mp (hf.dataOffset.trans hg.dataOffset.symm)
  · exact UInt32.toNat_inj.mp (hf.timestamp.trans hg.timestamp.symm)
  · exact hf.creatorApp.trans hg.creatorApp.symm
  · exact UInt32.toNat_inj.mp (hf.creatorVersion.trans hg.creatorVersion.symm)
  · exact hf.creatorHostOs.trans hg.creatorHostOs.symm
  · exact UInt64.toNat_inj.mp (hf.originalSize.trans hg.originalSize.symm)
  · exact UInt64.toNat_inj.mp (hf.currentSize.trans hg.currentSize.symm)
  · exact hgeometry
  · exact UInt32.toNat_inj.mp (hf.diskType.trans hg.diskType.symm)
  · exact UInt32.toNat_inj.mp (hf.checksum.trans hg.checksum.symm)
  · exact hf.uniqueId.trans hg.uniqueId.symm
  · exact UInt8.toNat_inj.mp (hf.savedState.trans hg.savedState.symm)
  · exact hf.reserved.trans hg.reserved.symm

theorem laidOut_iff_decode (f : Footer) (r : Record) : f.LaidOut r ↔ decode r = f := by
  constructor
  · exact fun h => (laidOut_decode r).unique h
  · rintro rfl
    exact laidOut_decode r

theorem encode_eq_iff_decode (f : Footer) (r : Record) : f.encode = r ↔ decode r = f := by
  constructor
  · rintro rfl
    exact decode_encode f
  · rintro rfl
    exact encode_decode r

/-- The table determines the record of every footer and the footer of every record, and these are
what is encoded and decoded. The numbers in it are kept as blocks of their width, and a geometry as
a block of four bytes, likewise without loss either way. -/
theorem codec_follows_layout :
    (∀ r : Record, (decode r).encode = r) ∧ (∀ f : Footer, decode f.encode = f) ∧
    (∀ (f : Footer) (r : Record), f.LaidOut r ↔ decode r = f) ∧
    (∀ (f : Footer) (r : Record), f.LaidOut r ↔ f.encode = r) ∧
    BigEndian.Stores 2 UInt16 UInt16.toNat UInt16.ofNat ∧
    BigEndian.Stores 4 UInt32 UInt32.toNat UInt32.ofNat ∧
    BigEndian.Stores 8 UInt64 UInt64.toNat UInt64.ofNat ∧
    (∀ g : Chs, Chs.unpack g.pack = g) ∧ ∀ b : Block 4, (Chs.unpack b).pack = b := by
  refine ⟨encode_decode, decode_encode, laidOut_iff_decode, fun f r => ?_,
    BigEndian.stores_uint16, BigEndian.stores_uint32, BigEndian.stores_uint64, Chs.unpack_pack,
    Chs.pack_unpack⟩
  rw [laidOut_iff_decode, encode_eq_iff_decode]

end Footer

end BootMedia
