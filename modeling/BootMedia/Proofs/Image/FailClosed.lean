import BootMedia.Image.Opening
import BootMedia.Proofs.Image.Examination

/-!
What becomes of a report when something goes wrong. There are three stages at which classifying
complains of an error: opening the image, finding its size, and reading its footer. Main
statements: the errors reported are exactly the stages that failed, and the only one that can
leave an image bootable is a footer that cannot be read.
-/
namespace BootMedia

/-- What an analyzer adds to the diagnostics of an image that is classified. -/
def Analyzer.said (analyzer : Analyzer) (path : PathText) : Except Fault OpenImage → List Notice
  | .error _ => []
  | .ok image =>
    if (Compression.sniff path).isCompressed then []
    else match analyzer image with
      | .crash _ => []
      | .bootable _ said => said

/-- The error that is reported for a stage that failed, beside the report that is given. -/
inductive Complaint (path : PathText) (opened : Except Fault OpenImage) (analyzer : Analyzer)
    (report : ImageReport) : Notice → Prop
  | notOpened {cause : Fault} (hopen : opened = .error cause) (hreport : report = .blank) :
      Complaint path opened analyzer report (.imageNotOpened path cause)
  | sizeUnknown {image : OpenImage} {cause : Fault} (hopen : opened = .ok image)
      (hsize : image.size = .error cause)
      (hreport : report = ⟨Compression.sniff path, false, false, 0⟩) :
      Complaint path opened analyzer report (.sizeUnknown cause)
  | footerUnread {image : OpenImage} {size : UInt64} {yes : Bool} {said : List Notice}
      {reason : DetectError} (hopen : opened = .ok image) (hsize : image.size = .ok size)
      (hplain : (Compression.sniff path).isCompressed = false)
      (hverdict : analyzer image = .bootable yes said)
      (hlarge : ¬ size < ImageReport.smallestWithFooter)
      (hread : (image.findFooter size).outcome = .error reason)
      (hreport : report = ⟨Compression.sniff path, yes, false, size⟩) :
      Complaint path opened analyzer report (.footerUnread reason)

theorem Detection.level_ne_error_of_mem_notices {d : Detection} {n : Notice} (h : n ∈ d.notices) :
    n.level ≠ .error := by
  cases d with
  | notVhd => nomatch h
  | unsupported version diskType payload => nomatch h
  | fixed vhd =>
    rcases List.mem_append.mp h with hmismatch | hfixed
    · obtain ⟨m, -, rfl⟩ : ∃ m, vhd.mismatch = some m ∧ Notice.corrupted m = n := by
        simpa using hmismatch
      simp [Notice.level]
    · rw [List.mem_singleton.mp hfixed]
      decide

namespace OpenImage

theorem searchFooter_unread {image : OpenImage} {size : UInt64} {reason : DetectError}
    (hlarge : ¬ size < ImageReport.smallestWithFooter)
    (hread : (image.findFooter size).outcome = .error reason) (report : ImageReport) :
    searchFooter image size report = (report, [.footerUnread reason]) := by
  simp only [searchFooter, if_neg hlarge, hread, footerNotices]

theorem unread_of_mem_searchFooter {image : OpenImage} {size : UInt64} {report : ImageReport}
    {n : Notice} (h : n ∈ (searchFooter image size report).2) (hlevel : n.level = .error) :
    ¬ size < ImageReport.smallestWithFooter ∧
      ∃ reason, (image.findFooter size).outcome = .error reason ∧ n = .footerUnread reason := by
  by_cases hsmall : size < ImageReport.smallestWithFooter
  · rw [searchFooter, if_pos hsmall] at h
    nomatch h
  · refine ⟨hsmall, ?_⟩
    cases hread : (image.findFooter size).outcome with
    | error reason =>
      rw [searchFooter_unread hsmall hread] at h
      exact ⟨reason, rfl, List.mem_singleton.mp h⟩
    | ok found =>
      rw [searchFooter, if_neg hsmall] at h
      simp only [hread, footerNotices, DetectRun.notices] at h
      cases found with
      | notVhd => nomatch h
      | unsupported version diskType payload =>
        rw [List.mem_singleton.mp h] at hlevel
        nomatch hlevel
      | fixed vhd => exact absurd hlevel (Detection.level_ne_error_of_mem_notices h)

variable {path : PathText} {analyzer : Analyzer} {image : OpenImage}

theorem complaint_iff_of_sizeUnknown {cause : Fault} (hsize : image.size = .error cause)
    (n : Notice) :
    Complaint path (.ok image) analyzer ⟨Compression.sniff path, false, false, 0⟩ n ↔
      n = .sizeUnknown cause := by
  constructor
  · intro h
    cases h with
    | notOpened hopen => nomatch hopen
    | sizeUnknown hopen hunknown =>
      cases hopen
      rw [hsize] at hunknown
      exact congrArg _ (Except.error.inj hunknown).symm
    | footerUnread hopen hknown =>
      cases hopen
      rw [hsize] at hknown
      nomatch hknown
  · rintro rfl
    exact .sizeUnknown rfl hsize rfl

theorem complaint_iff_of_size {size : UInt64} (hsize : image.size = .ok size)
    (report : ImageReport) (n : Notice) :
    Complaint path (.ok image) analyzer report n ↔
      (Compression.sniff path).isCompressed = false ∧
      ¬ size < ImageReport.smallestWithFooter ∧ ∃ yes said reason,
        analyzer image = .bootable yes said ∧ (image.findFooter size).outcome = .error reason ∧
        report = ⟨Compression.sniff path, yes, false, size⟩ ∧ n = .footerUnread reason := by
  constructor
  · intro h
    cases h with
    | notOpened hopen => nomatch hopen
    | sizeUnknown hopen hunknown =>
      cases hopen
      rw [hsize] at hunknown
      nomatch hunknown
    | footerUnread hopen hknown hplain hverdict hlarge hread hreport =>
      cases hopen
      obtain rfl := Except.ok.inj (hsize.symm.trans hknown)
      exact ⟨hplain, hlarge, _, _, _, hverdict, hread, hreport, rfl⟩
  · rintro ⟨hplain, hlarge, yes, said, reason, hverdict, hread, hreport, rfl⟩
    exact .footerUnread rfl hsize hplain hverdict hlarge hread hreport

theorem mem_describe_error_iff {yes : Bool} {said : List Notice}
    (hverdict : (Compression.sniff path).isCompressed = false →
      analyzer image = .bootable yes said) (n : Notice) :
    n ∈ (image.describe (Compression.sniff path) yes).2 ∧ n.level = .error ↔
      Complaint path (.ok image) analyzer (image.describe (Compression.sniff path) yes).1 n := by
  cases hsize : image.size with
  | error cause =>
    simp only [describe, hsize, complaint_iff_of_sizeUnknown hsize, List.mem_singleton]
    exact and_iff_left_of_imp fun h => h ▸ rfl
  | ok size =>
    cases hplain : (Compression.sniff path).isCompressed with
    | true => simp [describe, hsize, complaint_iff_of_size hsize, hplain]
    | false =>
      simp only [describe, hsize, hplain, Bool.false_eq_true, if_false]
      rw [complaint_iff_of_size hsize]
      constructor
      · rintro ⟨hmem, hlevel⟩
        obtain ⟨hlarge, reason, hread, hn⟩ := unread_of_mem_searchFooter hmem hlevel
        refine ⟨hplain, hlarge, yes, said, reason, hverdict hplain, hread, ?_, hn⟩
        rw [searchFooter_unread hlarge hread]
      · rintro ⟨-, hlarge, -, -, reason, -, hread, -, rfl⟩
        rw [searchFooter_unread hlarge hread]
        exact ⟨List.mem_singleton_self _, rfl⟩

end OpenImage

/-- The errors that classifying reports, behind what the analyzer says, are those of the stages
that failed. -/
theorem exists_errors_classify {path : PathText} {opened : Except Fault OpenImage}
    {analyzer : Analyzer} {k : Classification} (h : classify path opened analyzer = .ok k) :
    ∃ own, k.notices = analyzer.said path opened ++ own ∧
      ∀ n, n ∈ own ∧ n.level = .error ↔ Complaint path opened analyzer k.report n := by
  cases classified_of_classify h with
  | notOpened cause =>
    refine ⟨[.imageNotOpened path cause], rfl, fun n => ⟨?_, ?_⟩⟩
    · rintro ⟨hmem, -⟩
      rw [List.mem_singleton.mp hmem]
      exact .notOpened rfl rfl
    · intro hcomplaint
      cases hcomplaint with
      | notOpened hopen =>
        obtain rfl := Except.error.inj hopen
        exact ⟨List.mem_singleton_self _, rfl⟩
      | sizeUnknown hopen => nomatch hopen
      | footerUnread hopen => nomatch hopen
  | compressed image hname =>
    have hverdict : (Compression.sniff path).isCompressed = false →
        analyzer image = .bootable true [] := fun h => Bool.noConfusion (h.symm.trans hname)
    exact ⟨_, by simp only [Analyzer.said, hname, if_true, List.nil_append],
      OpenImage.mem_describe_error_iff hverdict⟩
  | analyzed hname hverdict =>
    exact ⟨_, by simp only [Analyzer.said, hname, hverdict, Bool.false_eq_true, if_false],
      OpenImage.mem_describe_error_iff fun _ => hverdict⟩

/-- Beside an error, only an unread footer lets a report follow the analyzer. -/
theorem Complaint.bootable_iff {path : PathText} {opened : Except Fault OpenImage}
    {analyzer : Analyzer} {report : ImageReport} {n : Notice}
    (h : Complaint path opened analyzer report n) :
    report.bootable = true ↔ (∃ reason, n = .footerUnread reason) ∧
      ∃ image said, opened = .ok image ∧ analyzer image = .bootable true said := by
  cases h with
  | notOpened hopen hreport => simp [hreport, ImageReport.blank]
  | sizeUnknown hopen hsize hreport => simp [hreport]
  | @footerUnread image size yes said reason hopen hsize hplain hverdict hlarge hread hreport =>
    rw [hreport]
    constructor
    · intro hyes
      obtain rfl : yes = true := hyes
      exact ⟨⟨reason, rfl⟩, image, said, hopen, hverdict⟩
    · rintro ⟨-, other, more, hother, htrue⟩
      obtain rfl := Except.ok.inj (hopen.symm.trans hother)
      exact (Verdict.bootable.inj (hverdict.symm.trans htrue)).1

/-- Classifying fails closed up to its last stage. The errors it reports, behind what the analyzer
says, are exactly those of the stages that failed. Beside such an error an image is reported as
bootable if and only if it is the footer that could not be read and the analyzer took the image to
be bootable. -/
theorem classify_fails_closed_before_footer (path : PathText) (opened : Except Fault OpenImage)
    (analyzer : Analyzer) (k : Classification) (h : classify path opened analyzer = .ok k) :
    ∃ own, k.notices = analyzer.said path opened ++ own ∧
      (∀ n, n ∈ own ∧ n.level = .error ↔ Complaint path opened analyzer k.report n) ∧
      ∀ n ∈ own, n.level = .error →
        (k.report.bootable = true ↔ (∃ reason, n = .footerUnread reason) ∧
          ∃ image said, opened = .ok image ∧ analyzer image = .bootable true said) := by
  obtain ⟨own, hnotices, herrors⟩ := exists_errors_classify h
  exact ⟨own, hnotices, herrors,
    fun n hmem hlevel => ((herrors n).mp ⟨hmem, hlevel⟩).bootable_iff⟩

section Directory

variable {host : Host} {path : PathText} {location : Location}

theorem openImage_directory (h : host.tree.find host.directory path = .ok (location, .directory)) :
    host.openImage path = .ok (.ofDirectory (host.tree.directorySize location)) := by
  simp only [Host.openImage, h]

theorem findFooter_ofDirectory {size : UInt64} (hlow : 512 ≤ size.toNat)
    (hhigh : size.toNat < OpenImage.offsetLimit) :
    ((OpenImage.ofDirectory size).findFooter size).outcome =
      .error (.unread Fault.isDirectory) := by
  have hle : (512 : UInt64) ≤ size := UInt64.le_iff_toNat_le.mpr hlow
  rw [OpenImage.findFooter, OpenImage.faultAt_tail _ hlow hhigh, detect,
    if_neg (UInt64.not_lt.mpr hle)]
  rfl

theorem classify_directory (h : host.tree.find host.directory path = .ok (location, .directory))
    (hplain : Compression.sniff path = .none) (yes : Bool)
    (hlow : 1024 ≤ (host.tree.directorySize location).toNat)
    (hhigh : (host.tree.directorySize location).toNat < OpenImage.offsetLimit) :
    classify path (host.openImage path) (.always yes) =
      .ok ⟨⟨.none, yes, false, host.tree.directorySize location⟩,
        [.footerUnread (.unread Fault.isDirectory)],
        [.ofDirectory (host.tree.directorySize location)]⟩ := by
  obtain ⟨size, hsize⟩ : ∃ size, host.tree.directorySize location = size := ⟨_, rfl⟩
  rw [hsize] at hlow hhigh
  rw [openImage_directory h, hsize]
  have hname : (Compression.sniff path).isCompressed = false := by rw [hplain]; rfl
  have hlarge : ¬ size < ImageReport.smallestWithFooter := fun hsmall =>
    Nat.not_lt.mpr hlow (UInt64.lt_iff_toNat_lt.mp hsmall)
  have hread := findFooter_ofDirectory (Nat.le_trans (by decide) hlow) hhigh
  have hverdict : Analyzer.always yes (.ofDirectory size) = .bootable yes [] := rfl
  have hdescribed : (OpenImage.ofDirectory size).describe .none yes =
      (⟨.none, yes, false, size⟩, [.footerUnread (.unread Fault.isDirectory)]) :=
    OpenImage.searchFooter_unread hlarge hread _
  rw [classify_of_verdict hname hverdict, hplain, hdescribed]
  rfl

end Directory

/-- A directory that the analyzer takes to be bootable is reported as bootable. -/
theorem classify_fails_closed_before_footer_directory :
    let host : Host :=
      ⟨Tree.empty.put [['d']] .directory, [], none, fun _ => ⟨[], .exited 0, []⟩, []⟩
    let k : Classification := ⟨⟨.none, true, false, 4096⟩,
      [.footerUnread (.unread Fault.isDirectory)], [.ofDirectory 4096]⟩
    classify ['d'] (host.openImage ['d']) (.always true) = .ok k ∧
      Complaint ['d'] (host.openImage ['d']) (.always true) k.report
        (.footerUnread (.unread Fault.isDirectory)) := by
  intro host k
  have hfound : host.tree.find host.directory ['d'] = .ok ([['d']], .directory) := rfl
  have hk : classify ['d'] (host.openImage ['d']) (.always true) = .ok k :=
    classify_directory hfound (by decide) true (by decide) (by decide)
  obtain ⟨own, hnotices, herrors, -⟩ :=
    classify_fails_closed_before_footer ['d'] (host.openImage ['d']) (.always true) k hk
  rw [openImage_directory hfound] at hnotices
  obtain rfl : own = [.footerUnread (.unread Fault.isDirectory)] := hnotices.symm
  exact ⟨hk, (herrors _).mp ⟨List.mem_singleton_self _, rfl⟩⟩

/-- An error does not always leave the image marked as not bootable. -/
theorem classify_may_fail_open :
    ¬ ∀ (path : PathText) (opened : Except Fault OpenImage) (analyzer : Analyzer)
        (k : Classification), classify path opened analyzer = .ok k →
      (∃ n ∈ k.notices, n.level = .error ∧ n ∉ analyzer.said path opened) →
      k.report.bootable = false := by
  intro hclaim
  obtain ⟨host, hhost⟩ : ∃ host : Host, host =
    ⟨Tree.empty.put [['d']] .directory, [], none, fun _ => ⟨[], .exited 0, []⟩, []⟩ := ⟨_, rfl⟩
  have hfound : host.tree.find host.directory ['d'] = .ok ([['d']], .directory) := by
    rw [hhost]
    rfl
  have hsize : host.tree.directorySize [['d']] = 4096 := by
    rw [hhost]
    rfl
  have hk := classify_directory hfound (by decide) true (by rw [hsize]; decide)
    (by rw [hsize]; decide)
  have hsilent : Analyzer.said (.always true) ['d'] (host.openImage ['d']) = [] := by
    rw [openImage_directory hfound]
    rfl
  refine Bool.noConfusion (hclaim ['d'] (host.openImage ['d']) (.always true) _ hk ?_)
  rw [hsilent]
  exact ⟨_, List.mem_singleton_self _, rfl, List.not_mem_nil⟩

end BootMedia
