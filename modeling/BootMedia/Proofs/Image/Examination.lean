import BootMedia.Image.Report

/-!
How the analyzer is asked when an image is examined. An image that could not be opened is not shown
to it, nor is one whose name is that of a compressed image; any other image is shown to it once.
Main statement: these are the three ways for an image to be classified.
-/
namespace BootMedia

/-- At the end of an image of a size that the host can state, reading meets only the fault of the
image itself. -/
theorem OpenImage.faultAt_tail (image : OpenImage) {size : UInt64} (hlow : 512 ≤ size.toNat)
    (hhigh : size.toNat < offsetLimit) :
    image.faultAt (size - 512) Footer.size = image.readFault := by
  have hle : (512 : UInt64) ≤ size := UInt64.le_iff_toNat_le.mpr hlow
  have hend : (size - 512).toNat + Footer.size = size.toNat := by
    rw [UInt64.toNat_sub_of_le _ _ hle]
    exact Nat.sub_add_cancel hlow
  rw [faultAt, hend, if_neg (Nat.not_le_of_lt hhigh)]

section Examining

variable {σ : Type} {path : PathText} {image : OpenImage} {consult : OpenImage → Activity σ Verdict}

theorem run_examine_of_compressed (hname : (Compression.sniff path).isCompressed = true)
    (consult : OpenImage → Activity σ Verdict) (s : σ) :
    (examine path (.ok image) consult).run s =
      ⟨.ok (image.describe (Compression.sniff path) true).1, s,
        (image.describe (Compression.sniff path) true).2⟩ := by
  simp only [examine, hname, if_true, Activity.run_bind, Activity.run_pure, Activity.run_noteAll,
    List.nil_append, List.append_nil]

/-- The diagnostics of the description stand behind those that asking left. -/
theorem run_examine_of_verdict {s : σ} {yes : Bool} {said : List Notice}
    (hname : (Compression.sniff path).isCompressed = false)
    (hverdict : ((consult image).run s).value = .bootable yes said) :
    (examine path (.ok image) consult).run s =
      ⟨.ok (image.describe (Compression.sniff path) yes).1, ((consult image).run s).state,
        ((consult image).run s).notices ++
          (said ++ (image.describe (Compression.sniff path) yes).2)⟩ := by
  simp only [examine, hname, Bool.false_eq_true, if_false, Activity.run_bind, hverdict,
    Activity.run_pure, Activity.run_noteAll, List.append_nil]

theorem value_examine_of_crash {s : σ} {cause : TableCrash}
    (hname : (Compression.sniff path).isCompressed = false)
    (hverdict : ((consult image).run s).value = .crash cause) :
    ((examine path (.ok image) consult).run s).value = .error cause := by
  simp only [examine, hname, Bool.false_eq_true, if_false, Activity.run_bind, hverdict,
    Activity.run_pure]

end Examining

section Classifying

variable {path : PathText} {opened : Except Fault OpenImage} {image : OpenImage}
  {analyzer : Analyzer} {k : Classification}

theorem classify_of_compressed (hname : (Compression.sniff path).isCompressed = true)
    (image : OpenImage) (analyzer : Analyzer) :
    classify path (.ok image) analyzer =
      .ok ⟨(image.describe (Compression.sniff path) true).1,
        (image.describe (Compression.sniff path) true).2, []⟩ := by
  rw [classify, run_examine_of_compressed hname]
  rfl

theorem classify_of_verdict {yes : Bool} {said : List Notice}
    (hname : (Compression.sniff path).isCompressed = false)
    (hverdict : analyzer image = .bootable yes said) :
    classify path (.ok image) analyzer =
      .ok ⟨(image.describe (Compression.sniff path) yes).1,
        said ++ (image.describe (Compression.sniff path) yes).2, [image]⟩ := by
  have hasked : ((analyzer.watched image).run []).value = .bootable yes said := hverdict
  rw [classify, run_examine_of_verdict hname hasked]
  rfl

theorem classify_of_crash {cause : TableCrash}
    (hname : (Compression.sniff path).isCompressed = false)
    (hverdict : analyzer image = .crash cause) :
    classify path (.ok image) analyzer = .error cause := by
  have hasked : ((analyzer.watched image).run []).value = .crash cause := hverdict
  rw [classify, value_examine_of_crash hname hasked]
  rfl

/-- The ways for an image to be classified, each with what it comes to. -/
inductive Classified (path : PathText) (analyzer : Analyzer) :
    Except Fault OpenImage → Classification → Prop
  | notOpened (cause : Fault) :
      Classified path analyzer (.error cause) ⟨.blank, [.imageNotOpened path cause], []⟩
  | compressed (image : OpenImage) (hname : (Compression.sniff path).isCompressed = true) :
      Classified path analyzer (.ok image)
        ⟨(image.describe (Compression.sniff path) true).1,
          (image.describe (Compression.sniff path) true).2, []⟩
  | analyzed {image : OpenImage} {yes : Bool} {said : List Notice}
      (hname : (Compression.sniff path).isCompressed = false)
      (hverdict : analyzer image = .bootable yes said) :
      Classified path analyzer (.ok image)
        ⟨(image.describe (Compression.sniff path) yes).1,
          said ++ (image.describe (Compression.sniff path) yes).2, [image]⟩

theorem classified_of_classify (h : classify path opened analyzer = .ok k) :
    Classified path analyzer opened k := by
  cases opened with
  | error cause =>
    obtain rfl := Except.ok.inj h
    exact .notOpened cause
  | ok image =>
    cases hname : (Compression.sniff path).isCompressed with
    | true =>
      obtain rfl := Except.ok.inj ((classify_of_compressed hname image analyzer).symm.trans h)
      exact .compressed image hname
    | false =>
      cases hverdict : analyzer image with
      | crash cause => nomatch (classify_of_crash hname hverdict).symm.trans h
      | bootable yes said =>
        obtain rfl := Except.ok.inj ((classify_of_verdict hname hverdict).symm.trans h)
        exact .analyzed hname hverdict

end Classifying

end BootMedia
