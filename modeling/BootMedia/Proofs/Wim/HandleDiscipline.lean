import BootMedia.Proofs.Wim.RecordedApi

/-!
What an extraction through an imaging interface holds open and when it lets go. The calls follow
each other until one fails, a handle is passed on to the calls that need it, and whatever was
opened is closed in reverse order once everything inside it is over. Main statement: so does every
one of a sequence of extractions, whatever the interface answers, and how closing goes shows
neither in the result nor in anything but warnings.
-/
namespace BootMedia

/-- Something open: its handle, the diagnostic that announces its end, and what a warning calls
it. -/
structure Held where
  handle : WimHandle
  closing : Notice
  label : String

/-- The end of something open, and how the interface answered. -/
structure Closing where
  held : Held
  answer : Except Fault Unit

namespace Closing

def call (c : Closing) : ApiCall := .closeHandle c.held.handle c.answer

def warning? (c : Closing) : Option Notice :=
  match c.answer with
  | .ok () => none
  | .error cause => some (.notClosed c.held.label cause)

def said (c : Closing) : List Notice := c.held.closing :: c.warning?.toList

end Closing

def Notice.announcesEnd (n : Notice) : Bool :=
  n.level == .info && match n with
    | .closingWim _ | .closingImage .. => true
    | _ => false

namespace ApiCall

def failure? : ApiCall → Option ExtractError
  | openWim _ (.error cause) => some (.host "WIMCreateFile" cause)
  | useTempDir _ _ (.error cause) => some (.host "WIMSetTemporaryPath" cause)
  | loadImage _ _ (.error cause) => some (.host "WIMLoadImage" cause)
  | extractFile _ _ _ (.error cause) => some (.host "WIMExtractImagePath" cause)
  | _ => none

def opened? (file : PathText) : ApiCall → Option Held
  | openWim _ (.ok wim) => some ⟨wim, .closingWim file, file.text⟩
  | loadImage _ index (.ok image) =>
    some ⟨image, .closingImage file index, Notice.imageLabel file index⟩
  | _ => none

def announcement? : ApiCall → Option Notice
  | extractFile _ src dst _ => some (.extracting .imagingApi dst src)
  | _ => none

def opensWim : ApiCall → Bool
  | openWim _ (.ok _) => true
  | _ => false

end ApiCall

/-- Which call of an extraction is due. -/
inductive Stage
  | opening
  | settingUp (wim : WimHandle)
  | loading (wim : WimHandle)
  | extracting (image : WimHandle)

def Stage.callsDue : Stage → Nat
  | opening => 4
  | settingUp _ => 3
  | loading _ => 2
  | extracting _ => 1

/-- The calls from a stage on, up to and including the first that fails, and the result. -/
inductive Course (tempDir : PathText) (r : Request) :
    Stage → List ApiCall → Except ExtractError Unit → Prop
  | notOpened (cause : Fault) :
      Course tempDir r .opening [.openWim r.image (.error cause)]
        (.error (.host "WIMCreateFile" cause))
  | opened {wim : WimHandle} {steps : List ApiCall} {answer : Except ExtractError Unit}
      (rest : Course tempDir r (.settingUp wim) steps answer) :
      Course tempDir r .opening (.openWim r.image (.ok wim) :: steps) answer
  | notSetUp (wim : WimHandle) (cause : Fault) :
      Course tempDir r (.settingUp wim) [.useTempDir wim tempDir (.error cause)]
        (.error (.host "WIMSetTemporaryPath" cause))
  | setUp {wim : WimHandle} {steps : List ApiCall} {answer : Except ExtractError Unit}
      (rest : Course tempDir r (.loading wim) steps answer) :
      Course tempDir r (.settingUp wim) (.useTempDir wim tempDir (.ok ()) :: steps) answer
  | notLoaded (wim : WimHandle) (cause : Fault) :
      Course tempDir r (.loading wim) [.loadImage wim r.index (.error cause)]
        (.error (.host "WIMLoadImage" cause))
  | loaded {wim image : WimHandle} {steps : List ApiCall} {answer : Except ExtractError Unit}
      (rest : Course tempDir r (.extracting image) steps answer) :
      Course tempDir r (.loading wim) (.loadImage wim r.index (.ok image) :: steps) answer
  | notExtracted (image : WimHandle) (cause : Fault) :
      Course tempDir r (.extracting image) [.extractFile image r.src r.dst (.error cause)]
        (.error (.host "WIMExtractImagePath" cause))
  | extracted (image : WimHandle) :
      Course tempDir r (.extracting image) [.extractFile image r.src r.dst (.ok ())] (.ok ())

/-- What a part of an extraction comes to: the calls it made in order, what it closed after them,
its result and its diagnostics. -/
structure Stretch where
  steps : List ApiCall
  closings : List Closing
  answer : Except ExtractError Unit
  said : List Notice

namespace Stretch

def calls (t : Stretch) : List ApiCall := t.steps ++ t.closings.map Closing.call

def done (answer : Except ExtractError Unit) : Stretch := ⟨[], [], answer, []⟩

def after (step : ApiCall) (t : Stretch) : Stretch :=
  ⟨step :: t.steps, t.closings, t.answer, step.announcement?.toList ++ t.said⟩

def closedBy (t : Stretch) (c : Closing) : Stretch :=
  ⟨t.steps, t.closings ++ [c], t.answer, t.said ++ c.said⟩

/-- Whatever was opened is closed in reverse order, with the diagnostics that go with it. -/
structure Released (file : PathText) (t : Stretch) : Prop where
  closed : t.closings.map Closing.held = (t.steps.filterMap (ApiCall.opened? file)).reverse
  said : t.said = t.steps.filterMap ApiCall.announcement? ++ t.closings.flatMap Closing.said

variable {file : PathText} {step : ApiCall} {t : Stretch}

theorem released_done (answer : Except ExtractError Unit) : (done answer).Released file :=
  ⟨rfl, rfl⟩

theorem Released.after (ht : t.Released file) (hopens : step.opened? file = none) :
    (t.after step).Released file where
  closed := by simp [Stretch.after, hopens, ht.closed]
  said := by cases h : step.announcement? <;> simp [Stretch.after, h, ht.said]

/-- What is opened inside something open is closed before it. -/
theorem Released.inside {c : Closing} (ht : t.Released file)
    (hopens : step.opened? file = some c.held) (hsilent : step.announcement? = none) :
    ((t.closedBy c).after step).Released file where
  closed := by simp [Stretch.after, closedBy, hopens, ht.closed]
  said := by simp [Stretch.after, closedBy, hsilent, ht.said]

end Stretch

/-- A run through a recorded interface adds the calls of a stretch to the record. -/
def Yields {σ : Type} (y : Activity (Recorded σ) (Except ExtractError Unit)) (w : Recorded σ)
    (t : Stretch) : Prop :=
  ∃ world, y.run w = ⟨t.answer, ⟨world, w.calls ++ t.calls⟩, t.said⟩

namespace Yields

open Activity

variable {σ α : Type} {w : Recorded σ} {t : Stretch} {f : σ → α × σ} {entry : α → ApiCall}

theorem pure (answer : Except ExtractError Unit) : Yields (pure answer) w (.done answer) :=
  ⟨w.world, by simp [Stretch.done, Stretch.calls]⟩

private theorem step {a : α} {g : α → Activity (Recorded σ) (Except ExtractError Unit)}
    (ha : (f w.world).1 = a) (h : Yields (g a) (w.call f entry).2 t) :
    Yields (silent (fun w => w.call f entry) >>= g) w { t with steps := entry a :: t.steps } := by
  obtain ⟨world, hrun⟩ := h
  refine ⟨world, ?_⟩
  simp only [Recorded.call, ha] at hrun
  simp [Recorded.call, ha, hrun, Stretch.calls]

theorem call {a : α} {g : α → Activity (Recorded σ) (Except ExtractError Unit)}
    (ha : (f w.world).1 = a) (hsilent : (entry a).announcement? = none)
    (h : Yields (g a) (w.call f entry).2 t) :
    Yields (silent (fun w => w.call f entry) >>= g) w (t.after (entry a)) := by
  simpa [Stretch.after, hsilent] using step ha h

theorem announced {a : α} {n : Notice} {g : α → Activity (Recorded σ) (Except ExtractError Unit)}
    (ha : (f w.world).1 = a) (hsaid : (entry a).announcement? = some n)
    (h : Yields (g a) (w.call f entry).2 t) :
    Yields (note n >>= fun _ => silent (fun w => w.call f entry) >>= g) w
      (t.after (entry a)) := by
  obtain ⟨world, hrun⟩ := step ha h
  refine ⟨world, ?_⟩
  rw [run_bind, run_note, hrun]
  simp [Stretch.after, Stretch.calls, hsaid]

theorem closing {y : Activity (Recorded σ) (Except ExtractError Unit)} (h : Yields y w t)
    (api : ImagingApi σ) (held : Held) :
    ∃ c : Closing, c.held = held ∧
      Yields (do
        let outcome ← y
        api.recorded.close held.handle held.closing held.label
        return outcome) w (t.closedBy c) := by
  obtain ⟨world, hrun⟩ := h
  refine ⟨⟨held, (api.closeHandle held.handle world).1⟩, rfl,
    (api.closeHandle held.handle world).2, ?_⟩
  cases hclose : (api.closeHandle held.handle world).1 with
  | ok done =>
    simp [hrun, ImagingApi.close, ImagingApi.recorded, Recorded.call, hclose, Stretch.closedBy,
      Stretch.calls, Closing.call, Closing.said, Closing.warning?]
  | error cause =>
    simp [hrun, ImagingApi.close, ImagingApi.recorded, Recorded.call, hclose, Stretch.closedBy,
      Stretch.calls, Closing.call, Closing.said, Closing.warning?]

end Yields

namespace ImagingApi

variable {σ : Type} (api : ImagingApi σ) (tempDir : PathText) (r : Request)

theorem yields_extractFrom (image : WimHandle) (w : Recorded σ) :
    ∃ t, Yields (extractFrom api.recorded r image) w t ∧ t.Released r.image ∧
      Course tempDir r (.extracting image) t.steps t.answer := by
  cases hextract : (api.extractFile image r.src r.dst w.world).1 with
  | error cause =>
    exact ⟨_, .announced hextract rfl (.pure _), (Stretch.released_done _).after rfl,
      .notExtracted image cause⟩
  | ok _ =>
    exact ⟨_, .announced hextract rfl (.pure _), (Stretch.released_done _).after rfl,
      .extracted image⟩

theorem yields_withImage (wim : WimHandle) (w : Recorded σ) :
    ∃ t, Yields (withImage api.recorded r wim) w t ∧ t.Released r.image ∧
      Course tempDir r (.loading wim) t.steps t.answer := by
  cases hload : (api.loadImage wim r.index w.world).1 with
  | error cause =>
    exact ⟨_, .call hload rfl (.pure _), (Stretch.released_done _).after rfl,
      .notLoaded wim cause⟩
  | ok image =>
    obtain ⟨t, hyields, hreleased, hcourse⟩ := yields_extractFrom api tempDir r image
      (w.call (api.loadImage wim r.index) (.loadImage wim r.index)).2
    obtain ⟨c, hheld, hclosing⟩ := hyields.closing api
      ⟨image, .closingImage r.image r.index, Notice.imageLabel r.image r.index⟩
    refine ⟨_, .call hload rfl hclosing, hreleased.inside ?_ rfl, .loaded hcourse⟩
    rw [hheld]
    rfl

theorem yields_insideWim (wim : WimHandle) (w : Recorded σ) :
    ∃ t, Yields (insideWim api.recorded tempDir r wim) w t ∧ t.Released r.image ∧
      Course tempDir r (.settingUp wim) t.steps t.answer := by
  cases hset : (api.useTempDir wim tempDir w.world).1 with
  | error cause =>
    exact ⟨_, .call hset rfl (.pure _), (Stretch.released_done _).after rfl,
      .notSetUp wim cause⟩
  | ok _ =>
    obtain ⟨t, hyields, hreleased, hcourse⟩ := yields_withImage api tempDir r wim
      (w.call (api.useTempDir wim tempDir) (.useTempDir wim tempDir)).2
    exact ⟨_, .call hset rfl hyields, hreleased.after rfl, .setUp hcourse⟩

theorem yields_withWim (w : Recorded σ) :
    ∃ t, Yields (withWim api.recorded tempDir r) w t ∧ t.Released r.image ∧
      Course tempDir r .opening t.steps t.answer := by
  cases hopen : (api.openWim r.image w.world).1 with
  | error cause =>
    exact ⟨_, .call hopen rfl (.pure _), (Stretch.released_done _).after rfl,
      .notOpened cause⟩
  | ok wim =>
    obtain ⟨t, hyields, hreleased, hcourse⟩ := yields_insideWim api tempDir r wim
      (w.call (api.openWim r.image) (.openWim r.image)).2
    obtain ⟨c, hheld, hclosing⟩ := hyields.closing api
      ⟨wim, .closingWim r.image, r.image.text⟩
    refine ⟨_, .call hopen rfl hclosing, hreleased.inside ?_ rfl, .opened hcourse⟩
    rw [hheld]
    rfl

end ImagingApi

namespace Course

variable {tempDir : PathText} {r : Request} {stage : Stage} {steps : List ApiCall}
  {answer : Except ExtractError Unit}

theorem answer_eq (h : Course tempDir r stage steps answer) :
    answer = (steps.findSome? ApiCall.failure?).elim (.ok ()) .error := by
  induction h with
  | notOpened | notSetUp | notLoaded | notExtracted | extracted => rfl
  | opened rest ih | setUp rest ih | loaded rest ih => exact ih

theorem length_of_ok (h : Course tempDir r stage steps answer) (hok : answer = .ok ()) :
    steps.length = stage.callsDue := by
  induction h with
  | notOpened | notSetUp | notLoaded | notExtracted => nomatch hok
  | extracted => rfl
  | opened rest ih | setUp rest ih | loaded rest ih =>
    rw [List.length_cons, ih hok]
    rfl

/-- What is opened later than the WIM file is closed below information level. -/
private theorem endings_later (h : Course tempDir r stage steps answer)
    (hstage : stage ≠ .opening) :
    ((steps.filterMap (ApiCall.opened? r.image)).map Held.closing).filter Notice.announcesEnd =
      [] := by
  induction h with
  | notOpened | opened => exact absurd rfl hstage
  | notSetUp | notLoaded | notExtracted | extracted => rfl
  | setUp rest ih | loaded rest ih => exact ih nofun

theorem endings_atInfo (h : Course tempDir r .opening steps answer) :
    ((steps.filterMap (ApiCall.opened? r.image)).map Held.closing).filter Notice.announcesEnd =
      if steps.any ApiCall.opensWim then [.closingWim r.image] else [] := by
  cases h with
  | notOpened cause => rfl
  | opened rest => exact congrArg (.closingWim r.image :: ·) (endings_later rest nofun)

end Course

namespace Closing

/-- A warning says that closing failed, and nothing else about the end of something open does. -/
theorem filter_said_of_not_warned {p : Notice → Bool}
    (hp : ∀ label cause, p (.notClosed label cause) = false) (cs : List Closing) :
    (cs.flatMap said).filter p = ((cs.map held).map Held.closing).filter p := by
  induction cs with
  | nil => rfl
  | cons c rest ih =>
    have hwarning : c.warning?.toList.filter p = [] := by
      unfold warning?
      cases c.answer with
      | ok _ => rfl
      | error cause => simp [hp]
    rw [List.flatMap_cons, List.filter_append, ih, said, List.filter_cons, hwarning]
    simp only [List.map_cons, List.filter_cons]
    split <;> rfl

theorem filter_said_warnings {cs : List Closing} (hcs : ∀ c ∈ cs, c.held.closing.level ≠ .warn) :
    (cs.flatMap said).filter (·.level == .warn) = cs.filterMap warning? := by
  induction cs with
  | nil => rfl
  | cons c rest ih =>
    have hclosing : (c.held.closing.level == .warn) = false :=
      beq_eq_false_iff_ne.mpr (hcs c List.mem_cons_self)
    have hrest := ih fun c hc => hcs c (List.mem_cons_of_mem _ hc)
    rw [List.flatMap_cons, List.filter_append, hrest, said, List.filter_cons, hclosing]
    unfold warning?
    cases hanswer : c.answer with
    | ok _ => simp [hanswer]
    | error cause => simp [hanswer, Notice.level]

end Closing

theorem ApiCall.level_closing_of_opened {file : PathText} {step : ApiCall} {held : Held}
    (h : step.opened? file = some held) : held.closing.level ≠ .warn := by
  cases step with
  | openWim image answer =>
    cases answer with
    | ok wim =>
      obtain rfl := Option.some.inj h
      exact show Level.info ≠ .warn by decide
    | error cause => nomatch h
  | loadImage wim index answer =>
    cases answer with
    | ok image =>
      obtain rfl := Option.some.inj h
      exact show Level.debug ≠ .warn by decide
    | error cause => nomatch h
  | isAvailable | useTempDir | extractFile | closeHandle => nomatch h

namespace Stretch

theorem Released.level_closing {file : PathText} {t : Stretch} (ht : t.Released file)
    {c : Closing} (hc : c ∈ t.closings) : c.held.closing.level ≠ .warn := by
  have hmem : c.held ∈ t.closings.map Closing.held := List.mem_map_of_mem hc
  rw [ht.closed, List.mem_reverse, List.mem_filterMap] at hmem
  obtain ⟨step, -, hopened⟩ := hmem
  exact ApiCall.level_closing_of_opened hopened

theorem filter_announcements {p : Notice → Bool}
    (hp : ∀ dst src, p (.extracting .imagingApi dst src) = false) (steps : List ApiCall) :
    (steps.filterMap ApiCall.announcement?).filter p = [] := by
  rw [List.filter_eq_nil_iff]
  intro n hn
  obtain ⟨step, -, hstep⟩ := List.mem_filterMap.mp hn
  cases step with
  | extractFile image src dst answer =>
    obtain rfl := Option.some.inj hstep
    simp [hp]
  | isAvailable | openWim | useTempDir | loadImage | closeHandle => nomatch hstep

end Stretch

/-- One extraction: whether the interface was there, and what was done through it. -/
structure Visit extends Stretch where
  available : Bool

def Visit.record (v : Visit) : List ApiCall := .isAvailable v.available :: v.calls

/-- How an extraction treats the interface. -/
structure Disciplined (tempDir : PathText) (r : Request) (v : Visit) : Prop where
  /-- An interface that is not there is left alone. -/
  refused : v.available = false →
    v.toStretch = .done (.error (.unavailable ImagingApi.name))
  /-- The calls are made in order, with the handles they are about. -/
  course : v.available = true → Course tempDir r .opening v.steps v.answer
  /-- The result is that of the first call that fails. -/
  answered : v.available = true →
    v.answer = (v.steps.findSome? ApiCall.failure?).elim (.ok ()) .error
  /-- A success takes all four calls. -/
  complete : v.answer = .ok () → v.steps.length = 4
  /-- What was opened, and nothing else, is closed in reverse order. -/
  closed : v.closings.map Closing.held = (v.steps.filterMap (ApiCall.opened? r.image)).reverse
  /-- One diagnostic at information level tells of an end, if the WIM file was opened. -/
  announced : v.said.filter Notice.announcesEnd =
    if v.steps.any ApiCall.opensWim then [.closingWim r.image] else []
  /-- There is a warning for each closing that failed, and no other. -/
  warned : v.said.filter (·.level == .warn) = v.closings.filterMap Closing.warning?

namespace ImagingApi

open Activity

variable {σ : Type} (api : ImagingApi σ) (tempDir : PathText)

theorem disciplined_refused (r : Request) :
    Disciplined tempDir r ⟨.done (.error (.unavailable name)), false⟩ where
  refused _ := rfl
  course := nofun
  answered := nofun
  complete := nofun
  closed := rfl
  announced := rfl
  warned := rfl

theorem disciplined_of_course {r : Request} {t : Stretch} (ht : t.Released r.image)
    (hcourse : Course tempDir r .opening t.steps t.answer) :
    Disciplined tempDir r
      ⟨{ t with said := .opening .imagingApi r.image r.index :: t.said }, true⟩ where
  refused := nofun
  course _ := hcourse
  answered _ := hcourse.answer_eq
  complete := hcourse.length_of_ok
  closed := ht.closed
  announced := by
    have hopening : ¬ Notice.announcesEnd (.opening .imagingApi r.image r.index) = true := nofun
    rw [List.filter_cons_of_neg hopening, ht.said, List.filter_append,
      Stretch.filter_announcements (fun _ _ => rfl),
      Closing.filter_said_of_not_warned (fun _ _ => rfl), ht.closed, List.map_reverse,
      List.filter_reverse, hcourse.endings_atInfo]
    cases t.steps.any ApiCall.opensWim <;> rfl
  warned := by
    have hopening : ((Notice.opening .imagingApi r.image r.index).level == .warn) = false := rfl
    simp only [List.filter_cons, hopening, Bool.false_eq_true, if_false]
    rw [ht.said, List.filter_append,
      Stretch.filter_announcements (fun _ _ => rfl),
      Closing.filter_said_warnings (fun c => ht.level_closing), List.nil_append]

theorem exists_visit (r : Request) (w : Recorded σ) :
    ∃ (v : Visit) (world : σ), Disciplined tempDir r v ∧
      (extract api.recorded tempDir r).run w =
        ⟨v.answer, ⟨world, w.calls ++ v.record⟩, v.said⟩ := by
  cases havailable : (api.isAvailable w.world).1 with
  | false =>
    refine ⟨_, (api.isAvailable w.world).2, disciplined_refused tempDir r, ?_⟩
    simp [extract, recorded, Recorded.call, havailable, Visit.record, Stretch.done, Stretch.calls]
  | true =>
    obtain ⟨t, ⟨world, hrun⟩, hreleased, hcourse⟩ := yields_withWim api tempDir r
      (w.call api.isAvailable .isAvailable).2
    refine ⟨_, world, disciplined_of_course tempDir hreleased hcourse, ?_⟩
    have hprobe : api.recorded.isAvailable w = (true, (w.call api.isAvailable .isAvailable).2) :=
      Prod.ext havailable rfl
    simp only [extract, run_bind, run_silent, hprobe, if_true, run_note, hrun]
    simp [Recorded.call, havailable, Visit.record, Stretch.calls]

/-- A sequence of extractions adds the calls of each to the record, one after the other. -/
theorem exists_visits (requests : List Request) (w : Recorded σ) :
    ∃ (visits : List Visit) (world : σ), List.Forall₂ (Disciplined tempDir) requests visits ∧
      (extractAll api.recorded tempDir requests).run w =
        ⟨visits.map (·.answer), ⟨world, w.calls ++ visits.flatMap Visit.record⟩,
          visits.flatMap (·.said)⟩ := by
  induction requests generalizing w with
  | nil => exact ⟨[], w.world, .nil, by simp [extractAll]⟩
  | cons r rest ih =>
    obtain ⟨v, world, hv, hfirst⟩ := exists_visit api tempDir r w
    obtain ⟨visits, last, hvisits, hothers⟩ := ih ⟨world, w.calls ++ v.record⟩
    refine ⟨v :: visits, last, .cons hv hvisits, ?_⟩
    simp [extractAll, hfirst, hothers]

end ImagingApi

namespace Activity

variable {σ α β : Type}

/-- From every state, two activities give the same value and differ in warnings at most. -/
def AlikeButWarnings (x y : Activity σ α) : Prop :=
  ∀ s, (x.run s).value = (y.run s).value ∧
    (x.run s).notices.filter (·.level != .warn) = (y.run s).notices.filter (·.level != .warn)

theorem AlikeButWarnings.refl (x : Activity σ α) : AlikeButWarnings x x := fun _ => ⟨rfl, rfl⟩

theorem AlikeButWarnings.bind {f g : α → Activity σ β} (x : Activity σ α)
    (h : ∀ a, AlikeButWarnings (f a) (g a)) : AlikeButWarnings (x >>= f) (x >>= g) := by
  intro s
  obtain ⟨hvalue, hnotices⟩ := h (x.run s).value (x.run s).state
  simp only [run_bind, List.filter_append, hvalue, hnotices, and_self]

end Activity

namespace ImagingApi

open Activity

variable {σ : Type} (api : ImagingApi σ) (tempDir : PathText)

def withClose (closeHandle : WimHandle → σ → Except Fault Unit × σ) : ImagingApi σ :=
  { api with closeHandle }

theorem filter_notices_close (handle : WimHandle) (closing : Notice) (label : String) (s : σ) :
    ((api.close handle closing label).run s).notices.filter (·.level != .warn) =
      [closing].filter (·.level != .warn) := by
  cases hclose : (api.closeHandle handle s).1 with
  | ok _ => simp [close, hclose]
  | error cause => simp [close, hclose, Notice.level, List.filter_cons]

theorem alike_closing {x y : Activity σ (Except ExtractError Unit)} (h : AlikeButWarnings x y)
    (other : ImagingApi σ) (handle : WimHandle) (closing : Notice) (label : String) :
    AlikeButWarnings
      (do
        let outcome ← x
        other.close handle closing label
        return outcome)
      (do
        let outcome ← y
        api.close handle closing label
        return outcome) := by
  intro s
  obtain ⟨hvalue, hnotices⟩ := h s
  simp only [run_bind, run_pure, List.append_nil, List.filter_append, filter_notices_close,
    hvalue, hnotices, and_self]

variable (closeHandle : WimHandle → σ → Except Fault Unit × σ) (r : Request)

theorem alike_withImage (wim : WimHandle) :
    AlikeButWarnings (withImage (api.withClose closeHandle) r wim) (withImage api r wim) := by
  refine .bind _ fun answer => ?_
  cases answer with
  | error cause => exact .refl _
  | ok image => exact alike_closing api (.refl _) _ _ _ _

theorem alike_insideWim (wim : WimHandle) :
    AlikeButWarnings (insideWim (api.withClose closeHandle) tempDir r wim)
      (insideWim api tempDir r wim) := by
  refine .bind _ fun answer => ?_
  cases answer with
  | error cause => exact .refl _
  | ok _ => exact alike_withImage api closeHandle r wim

theorem alike_withWim :
    AlikeButWarnings (withWim (api.withClose closeHandle) tempDir r) (withWim api tempDir r) := by
  refine .bind _ fun answer => ?_
  cases answer with
  | error cause => exact .refl _
  | ok wim => exact alike_closing api (alike_insideWim api tempDir closeHandle r wim) _ _ _ _

/-- How closing goes decides neither the result nor anything but warnings. -/
theorem alike_extract :
    AlikeButWarnings (extract (api.withClose closeHandle) tempDir r) (extract api tempDir r) := by
  refine .bind _ fun available => ?_
  cases available with
  | false =>
    simp only [Bool.false_eq_true, if_false]
    exact .refl _
  | true =>
    simp only [if_true]
    exact .bind _ fun _ => alike_withWim api tempDir closeHandle r

/-- Every one of a sequence of extractions through an imaging interface is disciplined, whatever
the interface answers to any call: it calls what is due up to the first failure, and closes what it
opened. Closing otherwise changes neither the result of an extraction nor anything but warnings. -/
theorem extractAll_disciplined (requests : List Request) (s : σ) :
    let run := (extractAll api.recorded tempDir requests).run ⟨s, []⟩
    (extractAll api tempDir requests).run s = ⟨run.value, run.state.world, run.notices⟩ ∧
      (∃ visits : List Visit, List.Forall₂ (Disciplined tempDir) requests visits ∧
        run.value = visits.map (·.answer) ∧ run.state.calls = visits.flatMap Visit.record ∧
        run.notices = visits.flatMap (·.said)) ∧
      ∀ (closeHandle : WimHandle → σ → Except Fault Unit × σ) (r : Request),
        AlikeButWarnings (extract (api.withClose closeHandle) tempDir r)
          (extract api tempDir r) := by
  intro run
  obtain ⟨visits, world, hvisits, hrun⟩ := exists_visits api tempDir requests ⟨s, []⟩
  refine ⟨follows_extractAll api tempDir requests ⟨s, []⟩, ⟨visits, hvisits, ?_, ?_, ?_⟩,
    alike_extract api tempDir⟩
  · exact congrArg Reply.value hrun
  · exact congrArg (·.state.calls) hrun
  · exact congrArg Reply.notices hrun

/-- Where extracting fails and closing does too, both handles are still closed. -/
example :
    let stuck : ImagingApi Unit :=
      ⟨(true, ·), fun _ => (.ok ⟨1⟩, ·), fun _ _ => (.ok (), ·), fun _ _ => (.ok ⟨2⟩, ·),
        fun _ _ _ => (.error (.system 5), ·), fun _ => (.error (.system 9), ·)⟩
    let run := (extract stuck.recorded [] ⟨['i'], 1, ['s'], ['d']⟩).run ⟨(), []⟩
    run.value = .error (.host "WIMExtractImagePath" (.system 5)) ∧
      run.state.calls.drop 5 =
        [.closeHandle ⟨2⟩ (.error (.system 9)), .closeHandle ⟨1⟩ (.error (.system 9))] :=
  ⟨rfl, rfl⟩

end ImagingApi

end BootMedia
