import BootMedia.Proofs.Wim.Watched
import Mathlib

/-!
Falling back from one backend to the next. Of the usable backends the first ones are tried, in
order, up to the first that succeeds; the result follows from what they answered. Main statement:
the calls a watched extractor makes for a request are exactly these attempts, behind the probes of
a first use and before the report of a success.
-/
namespace BootMedia

/-- Places are tried in turn until an attempt succeeds or none is left. -/
inductive InTurn : List Nat → List Attempt → Bool → Prop
  | exhausted : InTurn [] [] false
  | success (a : Attempt) (rest : List Nat) (ha : a.answer = .ok ()) :
      InTurn (a.place :: rest) [a] true
  | failure (a : Attempt) {reason : ExtractError} {rest : List Nat} {others : List Attempt}
      {succeeded : Bool} (ha : a.answer = .error reason) (h : InTurn rest others succeeded) :
      InTurn (a.place :: rest) (a :: others) succeeded

namespace InTurn

variable {places : List Nat} {attempts : List Attempt} {succeeded : Bool}

theorem map_place_prefix (h : InTurn places attempts succeeded) :
    attempts.map Attempt.place <+: places := by
  induction h with
  | exhausted => exact List.prefix_refl []
  | success a rest ha => exact (List.prefix_cons_inj a.place).mpr (List.nil_prefix)
  | failure a ha h ih => exact (List.prefix_cons_inj a.place).mpr ih

theorem answer_ne_of_mem_dropLast (h : InTurn places attempts succeeded) :
    ∀ a ∈ attempts.dropLast, a.answer ≠ .ok () := by
  induction h with
  | exhausted => simp
  | success a rest ha => simp
  | @failure first _ _ others _ ha h ih =>
    intro a hmem
    cases others with
    | nil => simp at hmem
    | cons second more =>
      rcases List.mem_cons.mp hmem with rfl | hlater
      · simp [ha]
      · exact ih a hlater

theorem succeeded_iff (h : InTurn places attempts succeeded) :
    succeeded = true ↔ ∃ a ∈ attempts, a.answer = .ok () := by
  induction h with
  | exhausted => simp
  | success a rest ha => simp [ha]
  | failure a ha h ih => simp [ha, ih]

theorem map_place_of_failed (h : InTurn places attempts succeeded) (hfailed : succeeded = false) :
    attempts.map Attempt.place = places := by
  induction h with
  | exhausted => rfl
  | success a rest ha => nomatch hfailed
  | failure a ha h ih => exact congrArg (List.cons _) (ih hfailed)

end InTurn

/-- An attempt is what a backend came to in some world. -/
def Attempt.Genuine {σ : Type} (b : Backend σ) (r : Request) (a : Attempt) : Prop :=
  ∃ world, a.method = b.name ∧ a.answer = ((b.extract r).run world).value ∧
    a.said = ((b.extract r).run world).notices

/-- A reply is what trying backends at some places in turn comes to: the attempts decide its value,
and are the calls and the diagnostics that it adds. -/
structure Reply.Tries {σ : Type} (reply : Reply (Watched σ) Bool) (r : Request)
    (bs : List (Backend σ × Nat)) (places : List Nat) (before : List Call)
    (attempts : List Attempt) : Prop where
  inTurn : InTurn places attempts reply.value
  genuine : ∀ a ∈ attempts, ∃ b, (b, a.place) ∈ bs ∧ a.Genuine b r
  calls : reply.state.calls = before ++ attempts.map (Call.extract r)
  notices : reply.notices = attempts.flatMap fun a => a.said ++ a.warnings

namespace Extractor

variable {σ : Type}

theorem run_tryInTurn_ok {r : Request} {b : Backend σ} {s : σ}
    (h : ((b.extract r).run s).value = .ok ()) (rest : List (Backend σ × Bool)) :
    (tryInTurn r ((b, true) :: rest)).run s =
      ⟨true, ((b.extract r).run s).state, ((b.extract r).run s).notices⟩ := by
  simp only [tryInTurn, Activity.run_bind, h, Activity.run_pure, List.append_nil]

theorem run_tryInTurn_error {r : Request} {b : Backend σ} {s : σ} {reason : ExtractError}
    (h : ((b.extract r).run s).value = .error reason) (rest : List (Backend σ × Bool)) :
    (tryInTurn r ((b, true) :: rest)).run s =
      ⟨((tryInTurn r rest).run ((b.extract r).run s).state).value,
       ((tryInTurn r rest).run ((b.extract r).run s).state).state,
       ((b.extract r).run s).notices ++ .attemptFailed b.name reason ::
         ((tryInTurn r rest).run ((b.extract r).run s).state).notices⟩ := by
  simp only [tryInTurn, Activity.run_bind, h, Activity.run_note, List.singleton_append]

/-- Exactly the usable backends are tried in turn. -/
theorem run_tryInTurn_watched (r : Request) (place : Nat) (bs : List (Backend σ))
    (answers : List Bool) (hlength : answers.length = bs.length) (w : Watched σ) :
    ∃ attempts, ((tryInTurn r ((Backend.watchedFrom place bs).zip answers)).run w).Tries r
      (bs.zipIdx place) (answers.findIdxs id place) w.calls attempts := by
  induction bs generalizing place answers w with
  | nil =>
    obtain rfl := List.length_eq_zero_iff.mp hlength
    exact ⟨[], .exhausted, by simp, (List.append_nil w.calls).symm, rfl⟩
  | cons b rest ih =>
    obtain ⟨usable, others, rfl⟩ := List.exists_cons_of_length_eq_add_one hlength
    have hothers : others.length = rest.length := Nat.succ.inj hlength
    rw [List.findIdxs_cons]
    cases usable with
    | false =>
      obtain ⟨attempts, hin, hgenuine, hcalls, hnotices⟩ := ih (place + 1) others hothers w
      refine ⟨attempts, hin, ?_, hcalls, hnotices⟩
      intro a ha
      obtain ⟨b', hb, hfrom⟩ := hgenuine a ha
      exact ⟨b', List.mem_cons_of_mem _ hb, hfrom⟩
    | true =>
      rw [if_pos (by rfl)]
      rcases hreply : (b.extract r).run w.world with ⟨answer, state, said⟩
      have hrun : ((b.watched place).extract r).run w =
          ⟨answer, ⟨state, w.calls ++ [.extract r ⟨place, b.name, answer, said⟩]⟩, said⟩ := by
        simp only [Backend.watched, Activity.watched, hreply]
      have hown : Attempt.Genuine b r ⟨place, b.name, answer, said⟩ :=
        ⟨w.world, rfl, by rw [hreply], by rw [hreply]⟩
      cases answer with
      | ok _ =>
        have hlast : (tryInTurn r ((Backend.watchedFrom place (b :: rest)).zip
            (true :: others))).run w = _ :=
          run_tryInTurn_ok (by rw [hrun]) ((Backend.watchedFrom (place + 1) rest).zip others)
        rw [hlast, hrun]
        have hin := InTurn.success ⟨place, b.name, .ok (), said⟩
          (others.findIdxs id (place + 1)) rfl
        refine ⟨[⟨place, b.name, .ok (), said⟩], hin, ?_, rfl, ?_⟩
        · intro a ha
          rw [List.mem_singleton.mp ha]
          exact ⟨b, List.mem_cons_self, hown⟩
        · simp [Attempt.warnings]
      | error reason =>
        have hnext : (tryInTurn r ((Backend.watchedFrom place (b :: rest)).zip
            (true :: others))).run w = _ :=
          run_tryInTurn_error (by rw [hrun]) ((Backend.watchedFrom (place + 1) rest).zip others)
        rw [hnext, hrun]
        obtain ⟨attempts, hin, hgenuine, hcalls, hnotices⟩ := ih (place + 1) others hothers
          ⟨state, w.calls ++ [.extract r ⟨place, b.name, .error reason, said⟩]⟩
        have hfirst := InTurn.failure ⟨place, b.name, .error reason, said⟩ rfl hin
        refine ⟨⟨place, b.name, .error reason, said⟩ :: attempts, hfirst, ?_, ?_, ?_⟩
        · intro a ha
          rcases List.mem_cons.mp ha with rfl | hlater
          · exact ⟨b, List.mem_cons_self, hown⟩
          · obtain ⟨b', hb, hfrom⟩ := hgenuine a hlater
            exact ⟨b', List.mem_cons_of_mem _ hb, hfrom⟩
        · simpa using hcalls
        · simpa [Attempt.warnings, Backend.watched] using hnotices

/-- Each backend is probed once, in order. -/
theorem run_probeAll_watched (place : Nat) (bs : List (Backend σ)) (w : Watched σ) :
    ((probeAll (Backend.watchedFrom place bs)).run w).value.map (·.1) = bs.map Backend.name ∧
      ((probeAll (Backend.watchedFrom place bs)).run w).state.calls = w.calls ++
        ((((probeAll (Backend.watchedFrom place bs)).run w).value.map (·.2)).zipIdx place).map
          fun answer => Call.probe answer.2 answer.1 := by
  induction bs generalizing place w with
  | nil => exact ⟨rfl, (List.append_nil w.calls).symm⟩
  | cons b rest ih =>
    obtain ⟨hnames, hcalls⟩ := ih (place + 1) ((b.watched place).probe.run w).state
    refine ⟨congrArg (List.cons b.name) hnames, hcalls.trans ?_⟩
    exact List.append_assoc w.calls [Call.probe place (b.probe.run w.world).value] _

end Extractor

/-- What is known of the host, if anything, was found by probing these backends. -/
def Session.Fits {σ : Type} (s : Session σ) (e : Extractor σ) : Prop :=
  ∀ known, s.snapshot = some known → known.entries.map (·.1) = e.backends.map Backend.name

namespace Extractor

variable {σ : Type}

theorem map_fst_probeAll (bs : List (Backend σ)) (world : σ) :
    ((probeAll bs).run world).value.map (·.1) = bs.map Backend.name := by
  induction bs generalizing world with
  | nil => rfl
  | cons b rest ih => exact congrArg (List.cons b.name) (ih _)

theorem fits_fresh (e : Extractor σ) (world : σ) : (Session.fresh world).Fits e := nofun

theorem fits_reprobe (e : Extractor σ) (s : Session σ) :
    (e.reprobe.run s).state.snapshot = some (e.reprobe.run s).value ∧
      (e.reprobe.run s).state.Fits e := by
  refine ⟨rfl, ?_⟩
  intro known hknown
  cases hknown
  exact map_fst_probeAll e.backends s.world

theorem fits_capabilities (e : Extractor σ) {s : Session σ} (hs : s.Fits e) :
    (e.capabilities.run s).state.snapshot = some (e.capabilities.run s).value ∧
      (e.capabilities.run s).state.Fits e := by
  unfold capabilities
  rw [Activity.run_bind, Activity.run_look]
  dsimp only
  cases hsnapshot : s.snapshot with
  | none => exact fits_reprobe e s
  | some known => exact ⟨hsnapshot, hs⟩

/-- A first use probes every backend once, a later one none. -/
theorem run_capabilities_watched (e : Extractor σ) {s : Session σ} (hs : s.Fits e) :
    (e.watched.capabilities.run s.watched).value.entries.map (·.1) =
        e.backends.map Backend.name ∧
      (∀ known, s.snapshot = some known →
        e.watched.capabilities.run s.watched = ⟨known, s.watched, []⟩) ∧
      (s.snapshot = none → (e.watched.capabilities.run s.watched).state.world.calls =
        ((e.watched.capabilities.run s.watched).value.entries.map (·.2)).zipIdx.map
          fun answer => Call.probe answer.2 answer.1) := by
  have hsame : (e.watched.capabilities.run s.watched).value = (e.capabilities.run s).value :=
    (congrArg Reply.value (follows_capabilities e s.watched)).symm
  obtain ⟨hkept, hfits⟩ := fits_capabilities e hs
  refine ⟨?names, ?later, ?first⟩
  case names =>
    rw [hsame]
    exact hfits _ hkept
  case later =>
    intro known hknown
    simp only [capabilities, Activity.run_bind, Activity.run_look, Session.watched, hknown,
      Activity.run_pure, List.nil_append]
  case first =>
    intro hnone
    have hprobe := (run_probeAll_watched 0 e.backends ⟨s.world, []⟩).2
    have hreprobe : e.watched.capabilities.run s.watched = e.watched.reprobe.run s.watched := by
      simp only [capabilities, Activity.run_bind, Activity.run_look, Session.watched, hnone,
        List.nil_append]
    rw [hreprobe]
    exact hprobe

end Extractor

/-- How a request in order is answered: the usable backends are attempted in order up to the first
success, and the answer tells whether there was one. -/
structure FallsBack {σ : Type} (e : Extractor σ) (r : Request) (usable : List Nat)
    (attempts : List Attempt) (answer : Except ExtractError Unit) : Prop where
  genuine : ∀ a ∈ attempts, ∃ b, e.backends[a.place]? = some b ∧ a.Genuine b r
  inOrder : attempts.map Attempt.place <+: usable
  stopsAtSuccess : ∀ a ∈ attempts.dropLast, a.answer ≠ .ok ()
  triesAll : answer ≠ .ok () → attempts.map Attempt.place = usable
  ok_iff : answer = .ok () ↔ ∃ a ∈ attempts, a.answer = .ok ()
  noBackend_iff : answer = .error .noBackend ↔ usable = []
  allFailed_iff : answer = .error .allBackendsFailed ↔
    usable ≠ [] ∧ attempts.map Attempt.place = usable ∧ ∀ a ∈ attempts, a.answer ≠ .ok ()

def Extractor.answer (usable : List Nat) (succeeded : Bool) : Except ExtractError Unit :=
  if usable = [] then .error .noBackend
  else if succeeded then .ok () else .error .allBackendsFailed

theorem InTurn.fallsBack {σ : Type} {e : Extractor σ} {r : Request} {usable : List Nat}
    {attempts : List Attempt} {succeeded : Bool} (h : InTurn usable attempts succeeded)
    (hgenuine : ∀ a ∈ attempts, ∃ b, (b, a.place) ∈ e.backends.zipIdx ∧ a.Genuine b r) :
    FallsBack e r usable attempts (Extractor.answer usable succeeded) := by
  have hfrom : ∀ a ∈ attempts, ∃ b, e.backends[a.place]? = some b ∧ a.Genuine b r := by
    intro a ha
    obtain ⟨b, hb, hown⟩ := hgenuine a ha
    exact ⟨b, List.mk_mem_zipIdx_iff_getElem?.mp hb, hown⟩
  have hinOrder := h.map_place_prefix
  have hstops := h.answer_ne_of_mem_dropLast
  have hsucceeded := h.succeeded_iff
  by_cases husable : usable = []
  · have hnone : attempts = [] := by
      rw [husable, List.prefix_nil] at hinOrder
      exact List.map_eq_nil_iff.mp hinOrder
    subst hnone
    have hanswer : Extractor.answer usable succeeded = .error .noBackend := if_pos husable
    rw [hanswer]
    exact ⟨hfrom, hinOrder, hstops, fun _ => husable.symm, by simp, by simp [husable],
      by simp [husable]⟩
  · cases succeeded with
    | true =>
      have hanswer : Extractor.answer usable true = .ok () := if_neg husable
      have hsome := hsucceeded.mp rfl
      rw [hanswer]
      refine ⟨hfrom, hinOrder, hstops, fun hne => absurd rfl hne, by simp [hsome],
        by simp [husable], ?_⟩
      obtain ⟨a, ha, hok⟩ := hsome
      exact ⟨nofun, fun hall => absurd hok (hall.2.2 a ha)⟩
    | false =>
      have hanswer : Extractor.answer usable false = .error .allBackendsFailed := if_neg husable
      have hall := h.map_place_of_failed rfl
      have hfailed : ∀ a ∈ attempts, a.answer ≠ .ok () := by
        intro a ha hok
        exact Bool.noConfusion (hsucceeded.mpr ⟨a, ha, hok⟩)
      rw [hanswer]
      refine ⟨hfrom, hinOrder, hstops, fun _ => hall, ⟨nofun, ?_⟩, by simp [husable],
        ⟨fun _ => ⟨husable, hall, hfailed⟩, fun _ => rfl⟩⟩
      rintro ⟨a, ha, hok⟩
      exact absurd hok (hfailed a ha)

namespace Extractor

variable {σ : Type}

section CarryOut

variable {e : Extractor σ} {r : Request} {known : Capabilities} {s : Session σ} {world : σ}
  {notices : List Notice}

theorem run_carryOut_noBackend (hany : known.any = false) :
    (e.carryOut r known).run s = ⟨.error .noBackend, s, []⟩ := by
  simp [carryOut, hany]

theorem run_carryOut_ok (hany : known.any = true)
    (h : (tryInTurn r (e.backends.zip (known.entries.map (·.2)))).run s.world =
      ⟨true, world, notices⟩) :
    (e.carryOut r known).run s = ⟨.ok (), ⟨s.snapshot, (e.onComplete.run world).state⟩,
      notices ++ (e.onComplete.run world).notices⟩ := by
  simp [carryOut, hany, Session.inWorld, h]

theorem run_carryOut_allFailed (hany : known.any = true)
    (h : (tryInTurn r (e.backends.zip (known.entries.map (·.2)))).run s.world =
      ⟨false, world, notices⟩) :
    (e.carryOut r known).run s =
      ⟨.error .allBackendsFailed, ⟨s.snapshot, world⟩, notices⟩ := by
  simp [carryOut, hany, Session.inWorld, h]

end CarryOut

theorem run_carryOut_watched (e : Extractor σ) (r : Request) (known : Capabilities)
    (hknown : known.entries.length = e.backends.length) (s : Session (Watched σ)) :
    ∃ attempts said,
      FallsBack e r (known.entries.findIdxs (·.2)) attempts
        ((e.watched.carryOut r known).run s).value ∧
      ((e.watched.carryOut r known).run s).state.world.calls =
        s.world.calls ++ attempts.map (Call.extract r) ++
          (if ((e.watched.carryOut r known).run s).value = .ok () then [.complete said] else []) ∧
      ((e.watched.carryOut r known).run s).notices =
        attempts.flatMap (fun a => a.said ++ a.warnings) ++
          (if ((e.watched.carryOut r known).run s).value = .ok () then said else []) := by
  cases hany : known.any with
  | false =>
    have hnone : known.entries.findIdxs (·.2) = [] := by
      rw [List.findIdxs_eq_nil_iff]
      simpa [Capabilities.any] using hany
    have hfalls : FallsBack e r [] [] (answer [] false) :=
      InTurn.exhausted.fallsBack fun a ha => absurd ha List.not_mem_nil
    rw [run_carryOut_noBackend hany, hnone]
    exact ⟨[], [], hfalls, by simp, by simp⟩
  | true =>
    have husable : known.entries.findIdxs (·.2) ≠ [] := by
      rw [Ne, List.findIdxs_eq_nil_iff]
      simpa [Capabilities.any] using hany
    obtain ⟨attempts, htries⟩ := run_tryInTurn_watched r 0 e.backends
      (known.entries.map (·.2)) (by simpa using hknown) s.world
    rcases htried : (tryInTurn r (e.watched.backends.zip (known.entries.map (·.2)))).run
      s.world with ⟨succeeded, world, notices⟩
    obtain ⟨hin, hgenuine, hcalls, hnotices⟩ : Reply.Tries ⟨succeeded, world, notices⟩ r _ _ _ _ :=
      htried ▸ htries
    rw [List.findIdxs_map] at hin
    have hfalls := hin.fallsBack hgenuine
    cases succeeded with
    | true =>
      have hanswer : answer (known.entries.findIdxs (·.2)) true = .ok () := if_neg husable
      rw [run_carryOut_ok hany htried]
      refine ⟨attempts, (e.onComplete.run world.world).notices, hanswer ▸ hfalls, ?_, ?_⟩
      · rw [if_pos rfl]
        exact congrArg (· ++ [Call.complete (e.onComplete.run world.world).notices]) hcalls
      · rw [if_pos rfl]
        exact congrArg (· ++ (e.onComplete.run world.world).notices) hnotices
    | false =>
      have hanswer : answer (known.entries.findIdxs (·.2)) false = .error .allBackendsFailed :=
        if_neg husable
      rw [run_carryOut_allFailed hany htried]
      exact ⟨attempts, [], hanswer ▸ hfalls, by simpa using hcalls, by simpa using hnotices⟩

theorem snapshot_carryOut (e : Extractor σ) (r : Request) (known : Capabilities)
    (s : Session σ) : ((e.carryOut r known).run s).state.snapshot = s.snapshot := by
  cases hany : known.any with
  | false => rw [run_carryOut_noBackend hany]
  | true =>
    rcases htried : (tryInTurn r (e.backends.zip (known.entries.map (·.2)))).run s.world with
      ⟨succeeded, world, notices⟩
    cases succeeded with
    | true => rw [run_carryOut_ok hany htried]
    | false => rw [run_carryOut_allFailed hany htried]

theorem run_extract_of_valid (e : Extractor σ) {r : Request} (hr : r.validate = .ok ())
    (s : Session σ) :
    (e.extract r).run s =
      ⟨((e.carryOut r (e.capabilities.run s).value).run (e.capabilities.run s).state).value,
       ((e.carryOut r (e.capabilities.run s).value).run (e.capabilities.run s).state).state,
       (e.capabilities.run s).notices ++
         ((e.carryOut r (e.capabilities.run s).value).run
           (e.capabilities.run s).state).notices⟩ := by
  simp only [extract, hr, Activity.run_bind]

/-- What is known goes on fitting the backends through requests, also through those that fail. -/
theorem fits_extract (e : Extractor σ) (r : Request) {s : Session σ} (hs : s.Fits e) :
    ((e.extract r).run s).state.Fits e := by
  cases hr : r.validate with
  | error reason =>
    simp only [extract, hr]
    exact hs
  | ok _ =>
    obtain ⟨_, hfits⟩ := fits_capabilities e hs
    rw [run_extract_of_valid e hr]
    intro known hknown
    rw [snapshot_carryOut] at hknown
    exact hfits known hknown

end Extractor

namespace Request

theorem validate_of_empty {r : Request} (h : r.image = [] ∨ r.src = [] ∨ r.dst = []) :
    ∃ what, r.validate = .error (.invalidRequest what) := by
  unfold validate
  split
  · exact ⟨_, rfl⟩
  split
  · exact ⟨_, rfl⟩
  split
  · exact ⟨_, rfl⟩
  · rename_i himage hsrc hdst
    rw [List.isEmpty_iff] at himage hsrc hdst
    rcases h with h | h | h
    · exact absurd h himage
    · exact absurd h hsrc
    · exact absurd h hdst

theorem validate_eq_ok {r : Request} (himage : r.image ≠ []) (hsrc : r.src ≠ [])
    (hdst : r.dst ≠ []) : r.validate = .ok () := by
  simp [validate, himage, hsrc, hdst]

end Request

/-- For every list of backends, whatever they answer, and for whatever is known of the host: a
request that is not in order touches nothing, and one that is in order is carried out by ordered
fallback over the usable backends, with one warning for each failure and one report of a success.
Watching does not change what the extractor does. -/
theorem Extractor.extract_falls_back {σ : Type} (e : Extractor σ) (r : Request) (s : Session σ)
    (hs : s.Fits e) :
    let probing := e.watched.capabilities.run s.watched
    let reply := (e.watched.extract r).run s.watched
    let usable := probing.value.entries.findIdxs (·.2)
    (e.extract r).run s = ⟨reply.value, reply.state.unwatched, reply.notices⟩ ∧
    (r.image = [] ∨ r.src = [] ∨ r.dst = [] →
      (∃ what, reply.value = .error (.invalidRequest what)) ∧ reply.state = s.watched ∧
        reply.notices = []) ∧
    (r.image ≠ [] → r.src ≠ [] → r.dst ≠ [] →
      (∀ known, s.snapshot = some known → probing = ⟨known, s.watched, []⟩) ∧
      (s.snapshot = none → probing.state.world.calls =
        (probing.value.entries.map (·.2)).zipIdx.map fun answer =>
          Call.probe answer.2 answer.1) ∧
      probing.value.entries.map (·.1) = e.backends.map Backend.name ∧
      ∃ attempts said, FallsBack e r usable attempts reply.value ∧
        reply.state.world.calls = probing.state.world.calls ++ attempts.map (Call.extract r) ++
          (if reply.value = .ok () then [.complete said] else []) ∧
        reply.notices = probing.notices ++ attempts.flatMap (fun a => a.said ++ a.warnings) ++
          (if reply.value = .ok () then said else []) ∧
        ∀ a ∈ attempts, ∀ n ∈ a.warnings, n.level = .warn) := by
  intro probing reply usable
  refine ⟨follows_extract e r s.watched, ?invalid, ?valid⟩
  case invalid =>
    intro hempty
    obtain ⟨what, hwhat⟩ := Request.validate_of_empty hempty
    have hreply : reply = ⟨.error (.invalidRequest what), s.watched, []⟩ := by
      simp only [reply, extract, hwhat, Activity.run_pure]
    rw [hreply]
    exact ⟨⟨what, rfl⟩, rfl, rfl⟩
  case valid =>
    intro himage hsrc hdst
    obtain ⟨hnames, hlater, hfirst⟩ := run_capabilities_watched e hs
    have hlength : probing.value.entries.length = e.backends.length := by
      simpa using congrArg List.length hnames
    obtain ⟨attempts, said, hfalls, hcalls, hnotices⟩ :=
      run_carryOut_watched e r probing.value hlength probing.state
    have hreply : reply = _ :=
      run_extract_of_valid e.watched (Request.validate_eq_ok himage hsrc hdst) s.watched
    refine ⟨hlater, hfirst, hnames, attempts, said, ?_⟩
    rw [hreply]
    refine ⟨hfalls, hcalls, ?_, fun a _ n hn => Attempt.level_of_mem_warnings hn⟩
    rw [List.append_assoc, ← hnotices]

/-- Of two backends of one name and an unusable one between them, the first fails and the last one
succeeds. -/
theorem Extractor.extract_falls_back_to_namesake :
    let failing : Backend Nat := ⟨"7z", pure true, fun _ => pure (.error .noBackend)⟩
    let unusable : Backend Nat := ⟨"wimgapi.dll", pure false, fun _ => pure (.ok ())⟩
    let working : Backend Nat :=
      ⟨"7z", pure true, fun _ => Activity.silent fun n => (.ok (), n + 1)⟩
    let e : Extractor Nat :=
      ⟨[failing, unusable, working], Activity.note .extractionComplete⟩
    let r : Request := ⟨['i'], 1, ['a'], ['b']⟩
    let s : Session Nat := Session.fresh 0
    let reply := (e.watched.extract r).run s.watched
    s.Fits e ∧ reply.value = .ok () ∧ reply.state.world.world = 1 ∧
      reply.state.world.calls =
        [.probe 0 true, .probe 1 false, .probe 2 true,
         .extract r ⟨0, "7z", .error .noBackend, []⟩, .extract r ⟨2, "7z", .ok (), []⟩,
         .complete [.extractionComplete]] ∧
      ∃ attempts, FallsBack e r [0, 2] attempts (.ok ()) := by
  intro failing unusable working e r s reply
  have hs : s.Fits e := fits_fresh e 0
  obtain ⟨_, _, hvalid⟩ := extract_falls_back e r s hs
  obtain ⟨_, _, _, attempts, _, hfalls, _⟩ := hvalid nofun nofun nofun
  exact ⟨hs, rfl, rfl, rfl, attempts, hfalls⟩

end BootMedia
