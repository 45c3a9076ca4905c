import BootMedia.Proofs.Vhd.ChecksumSum
import BootMedia.Proofs.Vhd.Codec
import BootMedia.Proofs.Vhd.TailWindow

/-!
Detection as a function of the last record of an image. Main statements: however its reads are
split, detection answers what the footer decoded from the last 512 bytes says, and what that is
can be read off the bytes of the record.
-/
namespace BootMedia

/-- The last 512 bytes of an image. -/
def tailRecord (image : Bytes) : Record := Block.fit 512 (image.drop (image.length - 512))

theorem tailRecord_append (p : Bytes) (r : Record) : tailRecord (p ++ r.bytes) = r := by
  have hlength := r.length_eq
  have hdrop : (p ++ r.bytes).length - 512 = p.length := by
    rw [List.length_append]
    omega
  apply Block.ext
  rw [tailRecord, hdrop, List.drop_left, Block.fit_bytes_eq hlength]

theorem bytes_tailRecord (image : Bytes) (hsize : 512 ≤ image.length) :
    (tailRecord image).bytes = image.drop (image.length - 512) := by
  apply Block.fit_bytes_eq
  rw [List.length_drop]
  omega

theorem outcome_detect (image : Bytes) (turns : List Turn) (hlow : 512 ≤ image.length)
    (hhigh : image.length < 2 ^ 64) (hturns : ∀ t ∈ turns, t.OnlyDelays) :
    (detect (Source.ofBytes image) turns (UInt64.ofNat image.length)).outcome =
      .ok (Detection.ofFooter (Footer.decode (tailRecord image))
        (UInt64.ofNat image.length)) := by
  have hsize : (UInt64.ofNat image.length).toNat = image.length :=
    UInt64.toNat_ofNat_of_lt' hhigh
  have hwindow : (Source.ofBytes image).window (image.length - 512) 512 =
      image.drop (image.length - 512) := by
    rw [Source.window_ofBytes]
    apply List.take_of_length_le
    rw [List.length_drop]
    omega
  have hfound : (detect (Source.ofBytes image) turns (UInt64.ofNat image.length)).outcome = _ :=
    outcome_detect_of_onlyDelays (hsize.symm ▸ hlow) (Nat.le_of_eq hsize) hturns
  rw [hsize, hwindow] at hfound
  exact hfound

/-- Of a footer behind any payload, detection answers what the footer says. -/
theorem outcome_detect_append (p : Bytes) (f : Footer) (turns : List Turn)
    (hroom : p.length + 512 < 2 ^ 64) (hturns : ∀ t ∈ turns, t.OnlyDelays) :
    (detect (Source.ofBytes (p ++ f.encode.bytes)) turns
      (UInt64.ofNat (p ++ f.encode.bytes).length)).outcome =
        .ok (Detection.ofFooter f (UInt64.ofNat (p.length + 512))) := by
  have hlength : (p ++ f.encode.bytes).length = p.length + 512 := by
    rw [List.length_append, f.encode.length_eq]
  rw [outcome_detect _ turns (by omega) (by omega) hturns, tailRecord_append, Footer.decode_encode,
    hlength]

namespace Footer

theorem hasCookie_decode (r : Record) :
    (decode r).hasCookie = true ↔ r.slice 0 8 (by decide) = magicCookie := by
  simp [hasCookie, decode]

theorem isSupported_decode (r : Record) :
    (decode r).isSupported = true ↔
      number r 12 4 (by decide) = version1.toNat ∧
        number r 60 4 (by decide) = DiskType.fixed.toNat := by
  have hversion := number_lt r 12 4 (by decide)
  have htype := number_lt r 60 4 (by decide)
  simp only [isSupported, decode, Bool.and_eq_true, beq_iff_eq, ← UInt32.toNat_inj,
    UInt32.toNat_ofNat_of_lt' hversion, UInt32.toNat_ofNat_of_lt' htype]

theorem expectedChecksum_decode (r : Record) :
    (decode r).expectedChecksum = Checksum.ofRecord r := by
  rw [expectedChecksum, encode_decode]

theorem mismatch?_eq_none_iff (f : Footer) :
    f.mismatch? = none ↔ f.checksum = f.expectedChecksum := by
  simp [mismatch?]

end Footer

end BootMedia
