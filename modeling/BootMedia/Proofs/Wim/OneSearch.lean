import BootMedia.Proofs.Wim.Stages

/-!
How often the archiver is looked for. A search that announces each of its runs is told apart from
all else that happens. Main statement: over the whole life of a driver, whatever it is asked for
and however the host changes meanwhile, one search is announced, at the first use of the driver,
and everything else is as without the announcement.
-/
namespace BootMedia.Archiver

/-- A search that leaves a mark whenever it is run. -/
def announced (mark : Notice) (locator : Activity Host (Option PathText)) :
    Activity Host (Option PathText) := do
  Activity.note mark
  locator

/-- Something in the life of a driver: it is probed, it is asked for a file, or the host becomes
another one. -/
inductive Moment
  | probed
  | asked (r : Request)
  | changed (host : Host)

def Moment.isUse : Moment → Bool
  | changed _ => false
  | _ => true

def pass (aftermath : Aftermath) (locator : Activity Host (Option PathText))
    (expected : ExpectedOutput) : Moment → Activity Desk Unit
  | .probed => do
    let _ ← (backend locator expected aftermath).probe
    return ()
  | .asked r => do
    let _ ← (backend locator expected aftermath).extract r
    return ()
  | .changed host => Activity.silent fun d => ((), { d with host })

def live (aftermath : Aftermath) (locator : Activity Host (Option PathText))
    (expected : ExpectedOutput) : List Moment → Activity Desk Unit
  | [] => return ()
  | first :: rest => do
    pass aftermath locator expected first
    live aftermath locator expected rest

variable (aftermath : Aftermath) (locator other : Activity Host (Option PathText))
  (expected : ExpectedOutput) (d : Desk)

theorem run_probe :
    (backend locator expected aftermath).probe.run d =
      ⟨((Desk.executable locator).run d).value.isSome, ((Desk.executable locator).run d).state,
        ((Desk.executable locator).run d).notices⟩ :=
  congrArg (Reply.mk _ _) (List.append_nil _)

theorem run_executable_of_some {d : Desk} {found : Option PathText}
    (hd : d.located = some found) : (Desk.executable locator).run d = ⟨found, d, []⟩ := by
  simp only [Desk.executable, hd]

theorem located_executable :
    ((Desk.executable locator).run d).state.located =
      some ((Desk.executable locator).run d).value := by
  unfold Desk.executable
  dsimp only
  split
  · assumption
  · rfl

theorem run_executable_announced (mark : Notice) {d : Desk} (hd : d.located = none) :
    (Desk.executable (announced mark locator)).run d =
      ⟨((Desk.executable locator).run d).value, ((Desk.executable locator).run d).state,
        mark :: ((Desk.executable locator).run d).notices⟩ := by
  simp only [Desk.executable, hd, announced, Activity.run_bind, Activity.run_note,
    List.singleton_append]

theorem located_extract (r : Request) :
    ((extract locator expected r aftermath).run d).state.located =
      ((Desk.executable locator).run d).state.located := by
  cases hfound : ((Desk.executable locator).run d).value with
  | none => rw [(run_extract_of_none expected r hfound).2]
  | some program => simp only [extract, Activity.run_bind, hfound, atHost, Activity.run_within]

theorem located_pass {m : Moment} (hm : m.isUse = true) :
    ∃ found, ((pass aftermath locator expected m).run d).state.located = some found := by
  have hknown := located_executable locator d
  cases m with
  | probed => exact ⟨_, hknown⟩
  | asked r => exact ⟨_, (located_extract aftermath locator expected d r).trans hknown⟩
  | changed host => exact Bool.noConfusion hm

theorem located_pass_of_some {d : Desk} {found : Option PathText} (hd : d.located = some found)
    (m : Moment) :
    ((pass aftermath locator expected m).run d).state.located = some found := by
  have hknown := run_executable_of_some locator hd
  cases m with
  | probed =>
    simp only [pass, Activity.run_bind, Activity.run_pure, run_probe, hknown]
    exact hd
  | asked r =>
    have hsame := located_extract aftermath locator expected d r
    rw [hknown] at hsame
    exact hsame.trans hd
  | changed host => exact hd

/-- Once the search is over, it does not matter which one it was. -/
theorem run_pass_of_some {d : Desk} {found : Option PathText} (hd : d.located = some found)
    (m : Moment) :
    (pass aftermath locator expected m).run d = (pass aftermath other expected m).run d := by
  have hknown (search : Activity Host (Option PathText)) := run_executable_of_some search hd
  cases m with
  | probed => simp only [pass, Activity.run_bind, Activity.run_pure, run_probe, hknown]
  | asked r => simp only [pass, backend, extract, Activity.run_bind, Activity.run_pure, hknown]
  | changed host => rfl

theorem run_pass_announced (mark : Notice) {d : Desk} (hd : d.located = none) {m : Moment}
    (hm : m.isUse = true) :
    (pass aftermath (announced mark locator) expected m).run d =
      ⟨(), ((pass aftermath locator expected m).run d).state,
        mark :: ((pass aftermath locator expected m).run d).notices⟩ := by
  have hsearch := run_executable_announced locator mark hd
  cases m with
  | probed =>
    simp only [pass, Activity.run_bind, Activity.run_pure, run_probe, hsearch, List.cons_append]
  | asked r =>
    simp only [pass, backend, extract, Activity.run_bind, Activity.run_pure, hsearch,
      List.cons_append]
  | changed host => exact Bool.noConfusion hm

theorem run_live_of_some {d : Desk} {found : Option PathText} (hd : d.located = some found)
    (life : List Moment) :
    (live aftermath locator expected life).run d = (live aftermath other expected life).run d := by
  induction life generalizing d with
  | nil => rfl
  | cons first rest ih =>
    have hnow := run_pass_of_some aftermath locator other expected hd first
    have hlater := ih (located_pass_of_some aftermath other expected hd first)
    simp only [live, Activity.run_bind, hnow, hlater]

/-- Over its whole life a driver runs one search at most: the one at its first use. -/
theorem run_live_announced (mark : Notice) (life : List Moment) :
    (live aftermath (announced mark locator) expected life).run d =
      ⟨(), ((live aftermath locator expected life).run d).state,
        (if d.located.isNone && life.any Moment.isUse then [mark] else []) ++
          ((live aftermath locator expected life).run d).notices⟩ := by
  cases hd : d.located with
  | some found =>
    rw [run_live_of_some aftermath (announced mark locator) locator expected hd life]
    rfl
  | none =>
    -- Changes of the host pass the search by, and after the first use it is over.
    induction life generalizing d with
    | nil => rfl
    | cons first rest ih =>
      cases hfirst : first.isUse with
      | true =>
        have hnow := run_pass_announced aftermath locator expected mark hd hfirst
        obtain ⟨found, hover⟩ := located_pass aftermath locator expected d hfirst
        have hlater :=
          run_live_of_some aftermath (announced mark locator) locator expected hover rest
        simp only [live, Activity.run_bind, hnow, hlater, hfirst, List.any_cons, Bool.true_or,
          Option.isNone_none, Bool.and_self, if_true]
        rfl
      | false =>
        cases first with
        | changed host =>
          have hrest := ih { d with host } hd
          simp only [live, Activity.run_bind, pass, Activity.run_silent, hrest, hfirst,
            List.any_cons, Bool.false_or, List.nil_append]
        | probed => exact Bool.noConfusion hfirst
        | asked r => exact Bool.noConfusion hfirst

end BootMedia.Archiver
