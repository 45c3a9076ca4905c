import BootMedia.Proofs.Transfer.ReadCalls
import BootMedia.Vhd.Detection

/-!
What detection reads of an image, and what its answer depends on. Main statement: for every source,
script and stated size the calls go through the last 512 bytes from front to back and leave them
nowhere, until these bytes are obtained in full or a call ends the reading; there is an answer if
and only if they are, and it is the one that they decode to.
-/
namespace BootMedia

section Detect

variable {s : Source} {turns : List Turn} {fileSize : UInt64}

theorem detect_of_lt (h : fileSize.toNat < 512) :
    detect s turns fileSize = ⟨.error (.tooSmall fileSize), []⟩ := by
  have hlt : fileSize < 512 := UInt64.lt_iff_toNat_lt.mpr h
  rw [detect, if_pos hlt]

private theorem not_lt_of_le (h : 512 ≤ fileSize.toNat) : ¬ fileSize < 512 := fun hlt =>
  Nat.not_lt.mpr h (UInt64.lt_iff_toNat_lt.mp hlt)

theorem toNat_sub_footer (h : 512 ≤ fileSize.toNat) :
    (fileSize - 512).toNat = fileSize.toNat - 512 :=
  UInt64.toNat_sub_of_le _ _ (UInt64.le_iff_toNat_le.mpr h)

theorem calls_detect (h : 512 ≤ fileSize.toNat) :
    (detect s turns fileSize).calls = (s.readExact turns (fileSize - 512) 512).calls := by
  simp only [detect, not_lt_of_le h, if_false, Footer.size]
  cases (s.readExact turns (fileSize - 512) 512).outcome <;> rfl

theorem outcome_detect_of_error (h : 512 ≤ fileSize.toNat) {cause : Fault}
    (hread : (s.readExact turns (fileSize - 512) 512).outcome = .error cause) :
    (detect s turns fileSize).outcome = .error (.unread cause) := by
  simp only [detect, not_lt_of_le h, if_false, Footer.size, hread]

theorem outcome_detect_of_ok (h : 512 ≤ fileSize.toNat) {b : Bytes}
    (hread : (s.readExact turns (fileSize - 512) 512).outcome = .ok b) :
    (detect s turns fileSize).outcome =
      .ok (Detection.ofFooter (Footer.decode (Block.fit 512 b)) fileSize) := by
  simp only [detect, not_lt_of_le h, if_false, Footer.size, hread]

theorem detect_congr {s' : Source} {turns' : List Turn}
    (h : s.readExact turns (fileSize - 512) 512 = s'.readExact turns' (fileSize - 512) 512) :
    detect s turns fileSize = detect s' turns' fileSize := by
  rw [detect, detect, Footer.size, h]

theorem outcome_detect_congr {turns' : List Turn}
    (h : (s.readExact turns (fileSize - 512) 512).outcome =
      (s.readExact turns' (fileSize - 512) 512).outcome) :
    (detect s turns fileSize).outcome = (detect s turns' fileSize).outcome := by
  by_cases hsize : 512 ≤ fileSize.toNat
  · cases hread : (s.readExact turns' (fileSize - 512) 512).outcome with
    | error cause =>
      rw [outcome_detect_of_error hsize hread, outcome_detect_of_error hsize (h.trans hread)]
    | ok b => rw [outcome_detect_of_ok hsize hread, outcome_detect_of_ok hsize (h.trans hread)]
  · have hsmall : fileSize.toNat < 512 := Nat.lt_of_not_le hsize
    rw [detect_of_lt hsmall, detect_of_lt hsmall]

theorem le_of_call {k : Nat} (h : k < (detect s turns fileSize).calls.length) :
    512 ≤ fileSize.toNat := by
  by_contra hsmall
  simp [detect_of_lt (Nat.lt_of_not_le hsmall)] at h

theorem contiguous_detect (s : Source) (turns : List Turn) (h : 512 ≤ fileSize.toNat) :
    (s.readExact turns (fileSize - 512) 512).Contiguous s turns (fileSize.toNat - 512) 512 := by
  have hword := fileSize.toNat_lt
  have hrun := s.contiguous_readExact turns (fileSize - 512) 512
    (by rw [toNat_sub_footer h]; omega)
  rwa [toNat_sub_footer h] at hrun

theorem placed_of_call {k : Nat} (hk : k < (detect s turns fileSize).calls.length) :
    let call := (detect s turns fileSize).calls[k]
    let got := (obtained s turns ((detect s turns fileSize).calls.take k)).length
    512 ≤ fileSize.toNat ∧ got < 512 ∧ call.offset.toNat = fileSize.toNat - 512 + got ∧
      call.count = 512 - got ∧ call.offset.toNat + call.count = fileSize.toNat := by
  intro call got
  have hsize := le_of_call hk
  have hcalls : (detect s turns fileSize).calls = _ := calls_detect hsize
  obtain ⟨hoffset, hcount, hask⟩ := (contiguous_detect s turns hsize).placed k (hcalls ▸ hk)
  simp only [← hcalls] at hoffset hcount hask
  simp only [call, got]
  omega

theorem detect_complete_or_stopped (s : Source) (turns : List Turn) (h : 512 ≤ fileSize.toNat) :
    let calls := (detect s turns fileSize).calls
    (obtained s turns calls).length = 512 ∨ ∃ k, ∃ hk : k < calls.length,
      k + 1 = calls.length ∧ ∃ cause, (Turn.ofRead turns k calls[k]).Stops s calls[k] cause := by
  rw [calls_detect h]
  exact (contiguous_detect s turns h).complete_or_stopped

theorem outcome_detect_of_stops {k : Nat} (hk : k < (detect s turns fileSize).calls.length)
    {cause : Fault} (hstop : (Turn.ofRead turns k (detect s turns fileSize).calls[k]).Stops s
      (detect s turns fileSize).calls[k] cause) :
    (detect s turns fileSize).outcome = .error (.unread cause) ∧
      k + 1 = (detect s turns fileSize).calls.length := by
  have hsize := le_of_call hk
  have hcalls : (detect s turns fileSize).calls = _ := calls_detect hsize
  simp only [hcalls] at hstop
  obtain ⟨hread, hlast⟩ :=
    (contiguous_detect s turns hsize).stops k (hcalls ▸ hk) cause hstop
  exact ⟨outcome_detect_of_error hsize hread, hcalls ▸ hlast⟩

/-- An answer is what the bytes obtained decode to, and there is none unless these are 512. -/
theorem outcome_detect_eq_ok_iff (s : Source) (turns : List Turn) (fileSize : UInt64)
    (found : Detection) :
    (detect s turns fileSize).outcome = .ok found ↔ ∃ record : Record,
      record.bytes = obtained s turns (detect s turns fileSize).calls ∧
        found = Detection.ofFooter (Footer.decode record) fileSize := by
  by_cases hsize : 512 ≤ fileSize.toNat
  · have hrun := contiguous_detect s turns hsize
    rw [calls_detect hsize]
    cases hread : (s.readExact turns (fileSize - 512) 512).outcome with
    | error cause =>
      rw [outcome_detect_of_error hsize hread]
      refine ⟨nofun, ?_⟩
      rintro ⟨record, hbytes, -⟩
      have hok := (hrun.succeeds record.bytes).mpr ⟨hbytes, record.length_eq⟩
      rw [hread] at hok
      nomatch hok
    | ok b =>
      obtain ⟨hb, hlength⟩ := (hrun.succeeds b).mp hread
      have hfit : (Block.fit 512 b).bytes = b := Block.fit_bytes_eq hlength
      rw [outcome_detect_of_ok hsize hread]
      constructor
      · intro hfound
        exact ⟨Block.fit 512 b, hfit.trans hb, (Except.ok.inj hfound).symm⟩
      · rintro ⟨record, hbytes, rfl⟩
        have hrecord : Block.fit 512 b = record := Block.ext (hfit.trans (hb.trans hbytes.symm))
        rw [hrecord]
  · rw [detect_of_lt (Nat.lt_of_not_le hsize)]
    refine ⟨nofun, ?_⟩
    rintro ⟨record, hbytes, -⟩
    have hlength := record.length_eq
    rw [hbytes] at hlength
    nomatch hlength

/-- What was obtained in the end is part of the window, and all of it where there is an answer. -/
theorem bytes_eq_window {record : Record}
    (h : record.bytes = obtained s turns (detect s turns fileSize).calls) :
    record.bytes = s.window (fileSize.toNat - 512) 512 := by
  by_cases hsize : 512 ≤ fileSize.toNat
  · have hread := (contiguous_detect s turns hsize).obtained_eq
    rwa [← calls_detect hsize, ← h, record.length_eq] at hread
  · have hlength := record.length_eq
    rw [h, detect_of_lt (Nat.lt_of_not_le hsize)] at hlength
    nomatch hlength

/-- Where the source has all bytes of the window and its calls are only delayed, the answer is what
these bytes decode to. -/
theorem outcome_detect_of_onlyDelays (hlow : 512 ≤ fileSize.toNat) (hhigh : fileSize.toNat ≤ s.size)
    (hturns : ∀ t ∈ turns, t.OnlyDelays) :
    (detect s turns fileSize).outcome = .ok (Detection.ofFooter
      (Footer.decode (Block.fit 512 (s.window (fileSize.toNat - 512) 512))) fileSize) := by
  have hword := fileSize.toNat_lt
  have hoffset := toNat_sub_footer hlow
  have hread := s.outcome_readExact turns (fileSize - 512) 512 hturns (by omega) (by omega)
  rw [hoffset] at hread
  exact outcome_detect_of_ok hlow hread

/-- A script that only delays the calls does not show in the answer. -/
theorem outcome_detect_eq_of_onlyDelays (hturns : ∀ t ∈ turns, t.OnlyDelays) :
    (detect s turns fileSize).outcome = (detect s [] fileSize).outcome := by
  by_cases hsize : 512 ≤ fileSize.toNat
  · have hword := fileSize.toNat_lt
    apply outcome_detect_congr
    exact s.outcome_readExact_of_onlyDelays (by rw [toNat_sub_footer hsize]; omega) (by decide)
      hturns
  · have hsmall : fileSize.toNat < 512 := Nat.lt_of_not_le hsize
    rw [detect_of_lt hsmall, detect_of_lt hsmall]

theorem length_window_detect (hlow : 512 ≤ fileSize.toNat) (hhigh : fileSize.toNat ≤ s.size) :
    (s.window (fileSize.toNat - 512) 512).length = 512 := by
  rw [Source.length_window]
  omega

theorem detect_fails_of_short (h : s.size < fileSize.toNat ∨ fileSize.toNat < 512) :
    ∃ reason, (detect s turns fileSize).outcome = .error reason := by
  by_cases hsize : 512 ≤ fileSize.toNat
  · have hword := fileSize.toNat_lt
    have hoffset := toNat_sub_footer hsize
    obtain ⟨cause, hcause⟩ :=
      s.exists_error_of_short turns (fileSize - 512) 512 (by omega) (by decide) (by omega)
    exact ⟨.unread cause, outcome_detect_of_error hsize hcause⟩
  · rw [detect_of_lt (Nat.lt_of_not_le hsize)]
    exact ⟨_, rfl⟩

theorem detect_of_agree {s' : Source}
    (h : s'.Agree s (fileSize.toNat - 512) fileSize.toNat) :
    detect s' turns fileSize = detect s turns fileSize := by
  by_cases hsize : 512 ≤ fileSize.toNat
  · have hword := fileSize.toNat_lt
    have hoffset := toNat_sub_footer hsize
    exact detect_congr (h.readExact_eq turns _ _ (by omega) (by omega) (by omega))
  · have hsmall : fileSize.toNat < 512 := Nat.lt_of_not_le hsize
    rw [detect_of_lt hsmall, detect_of_lt hsmall]

end Detect

/-- Detection in a source of any size, for any script and any stated size. An image that is too
small is not read at all. Every call lies inside the last 512 bytes, begins where the bytes obtained
so far end, and asks for those that are missing. Reading goes on until none is missing, or a call
brings nothing or fails for good; such a call is the last one and leaves no answer. There is an
answer if and only if the window was obtained in full, and it is what the window decodes to; that is
so whenever the source has these bytes and its calls are only delayed. Short reads and interruptions
do not show, nor do bytes outside the window or behind the stated size; where the source ends before
that, there is no answer. -/
theorem detect_reads_tail_window (s : Source) (turns : List Turn) (fileSize : UInt64) :
    let run := detect s turns fileSize
    let got (k : Nat) : Nat := (obtained s turns (run.calls.take k)).length
    (fileSize.toNat < 512 → run = ⟨.error (.tooSmall fileSize), []⟩) ∧
    (∀ k (h : k < run.calls.length), 512 ≤ fileSize.toNat ∧ got k < 512 ∧
      run.calls[k].offset.toNat = fileSize.toNat - 512 + got k ∧
      run.calls[k].count = 512 - got k ∧
      run.calls[k].offset.toNat + run.calls[k].count = fileSize.toNat) ∧
    (512 ≤ fileSize.toNat → got run.calls.length = 512 ∨
      ∃ k, ∃ h : k < run.calls.length, k + 1 = run.calls.length ∧
        ∃ cause, (Turn.ofRead turns k run.calls[k]).Stops s run.calls[k] cause) ∧
    (∀ found, run.outcome = .ok found ↔ ∃ record : Record,
      record.bytes = obtained s turns run.calls ∧
      record.bytes = s.window (fileSize.toNat - 512) 512 ∧
      found = Detection.ofFooter (Footer.decode record) fileSize) ∧
    (∀ k (h : k < run.calls.length) cause,
      (Turn.ofRead turns k run.calls[k]).Stops s run.calls[k] cause →
        run.outcome = .error (.unread cause) ∧ k + 1 = run.calls.length) ∧
    (512 ≤ fileSize.toNat → fileSize.toNat ≤ s.size → (∀ t ∈ turns, t.OnlyDelays) →
      ∃ record : Record, record.bytes = s.window (fileSize.toNat - 512) 512 ∧
        run.outcome = .ok (Detection.ofFooter (Footer.decode record) fileSize)) ∧
    ((∀ t ∈ turns, t.OnlyDelays) → run.outcome = (detect s [] fileSize).outcome) ∧
    (∀ s' : Source, s'.Agree s (fileSize.toNat - 512) fileSize.toNat →
      detect s' turns fileSize = run) ∧
    (fileSize.toNat ≤ s.size → detect (s.truncate fileSize.toNat) turns fileSize = run) ∧
    (s.size < fileSize.toNat ∨ fileSize.toNat < 512 →
      ∃ reason, run.outcome = .error reason) := by
  intro run got
  refine ⟨detect_of_lt, fun k => placed_of_call, ?goesOn, ?answer,
    fun k hk cause => outcome_detect_of_stops hk, ?delayed, outcome_detect_eq_of_onlyDelays,
    fun s' => detect_of_agree, fun hsize => detect_of_agree (Source.agree_truncate _ hsize),
    detect_fails_of_short⟩
  case goesOn =>
    intro hsize
    simp only [got, List.take_length]
    exact detect_complete_or_stopped s turns hsize
  case answer =>
    intro found
    rw [outcome_detect_eq_ok_iff]
    constructor
    · rintro ⟨record, hbytes, hfound⟩
      exact ⟨record, hbytes, bytes_eq_window hbytes, hfound⟩
    · rintro ⟨record, hbytes, -, hfound⟩
      exact ⟨record, hbytes, hfound⟩
  case delayed =>
    intro hlow hhigh hturns
    exact ⟨_, Block.fit_bytes_eq (length_window_detect hlow hhigh),
      outcome_detect_of_onlyDelays hlow hhigh hturns⟩

/-- Near the largest size that can be stated no offset wraps around: one call is cut short, the next
one interrupted, and the window is obtained all the same. -/
theorem detect_reads_tail_window_near_limit :
    let s : Source := ⟨2 ^ 64, fun _ => 7⟩
    let turns : List Turn := [.limit 100, .fault (.told .interrupted "interrupted")]
    let run := detect s turns 0xFFFFFFFFFFFFFFFF
    (∀ t ∈ turns, t.OnlyDelays) ∧
      run.calls = [⟨0xFFFFFFFFFFFFFDFF, 512⟩, ⟨0xFFFFFFFFFFFFFE63, 412⟩,
        ⟨0xFFFFFFFFFFFFFE63, 412⟩] ∧
      (obtained s turns run.calls).length = 512 ∧
      ∃ record : Record, record.bytes = List.replicate 512 7 ∧
        run.outcome = .ok (Detection.ofFooter (Footer.decode record) 0xFFFFFFFFFFFFFFFF) := by
  intro s turns run
  have hturns : ∀ t ∈ turns, t.OnlyDelays := by decide
  obtain ⟨-, -, -, -, -, hanswer, -⟩ := detect_reads_tail_window s turns 0xFFFFFFFFFFFFFFFF
  obtain ⟨record, hbytes, hfound⟩ := hanswer (by decide) (by decide) hturns
  have hwindow : s.window (18446744073709551615 - 512) 512 = List.replicate 512 7 := by
    decide +kernel
  exact ⟨hturns, by decide +kernel, by decide +kernel, record, hbytes.trans hwindow, hfound⟩

end BootMedia
