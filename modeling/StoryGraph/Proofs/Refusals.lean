import StoryGraph.Proofs.Influence
import StoryGraph.Proofs.Resuming

/-!
A listener that refuses notices. Whenever it refuses one, the call fails; but the notice was
recorded and logged before, and the session is left where it would have gone on. The exception is a
bare item that is not understood: it is still to be skipped, so the next call notes it down again.
If the listener refuses only finitely many notices, calling again comes to the event to which the
call comes when nothing is refused, and nothing is lost.
-/

set_option autoImplicit false

namespace StoryGraph

/-- However the notices go on, the listener refuses only finitely many of them. -/
def Listener.Relents (listener : Listener) : Prop :=
  ∀ told : Nat → Notice, ∃ bound, ∀ count, bound ≤ count →
    listener.refuses (Array.ofFn fun index : Fin count => told index) (told count) = false

/-- The same notices, but some that tell of an item that is not understood come again at once. -/
inductive Notice.Echoes : List Notice → List Notice → Prop where
  | nil : Echoes [] []
  | once {noted told} (notice : Notice) (earlier : Echoes noted told) :
      Echoes (noted ++ [notice]) (told ++ [notice])
  | again {noted told notice} (unrecognized : notice.isUnrecognized = true)
      (earlier : Echoes (noted ++ [notice]) told) : Echoes (noted ++ [notice]) (told ++ [notice])

/-- A call failed because a notice was refused, which was recorded and logged before. -/
def Stage.RefusedSince (stage : Stage) (start left : State) (fault : Fault) : Prop :=
  ∃ notice earlier, fault = .refused notice ∧ stage.Told start left (earlier ++ [notice])

/-- If one notice is told again and again, it is heeded at last. -/
theorem Listener.Relents.heeds {listener : Listener} (relents : listener.Relents)
    (heard : Array Notice) (notice : Notice) :
    ∃ times, listener.refuses (heard ++ Array.replicate times notice) notice = false := by
  obtain ⟨bound, heeded⟩ := relents fun index => heard[index]?.getD notice
  have heededLate := heeded (heard.size + bound) (Nat.le_add_left ..)
  have sameHeard : (Array.ofFn fun index : Fin (heard.size + bound) =>
      heard[(index : Nat)]?.getD notice) = heard ++ Array.replicate bound notice := by
    apply Array.ext
    · simp
    · intro index _ _
      by_cases early : index < heard.size <;> simp [Array.getElem_append, early]
  rw [sameHeard] at heededLate
  refine ⟨bound, ?_⟩
  simpa using heededLate

namespace Stage

variable {stage : Stage} {listener : Listener} {start state twin : State} {inline : Option Item}
  {notice : Notice} {noted earlier : List Notice}

/-- Where nothing is noted down it does not matter who listens. -/
theorem step_of_silent (listener : Option Listener) (silent : stage.noted? state inline = none) :
    (stage.withListener listener).step state inline = stage.step state inline := by
  have sameStory : (stage.withListener listener).story = stage.story := rfl
  apply step_congr sameStory
  · intro item test body next action
    rw [noted?_of_decide next action, ← read_past state inline] at silent
    have silentToo : test.notice? (stage.withListener listener).settings.strictTypes
        ((past state inline).read test.name) = none := silent
    simp only [evaluate_eq, silent, silentToo]
    rfl
  · intro item kind next action
    rw [noted?_of_skip next action] at silent
    cases silent

theorem Unopposed.moves_of_noted (unopposed : stage.Unopposed)
    (noted : stage.noted? state inline = some notice) :
    ∃ after, stage.Moves ⟨state, inline⟩ ⟨after, none⟩ ∧ (past state inline).SameCourse after := by
  rcases step_of_noted noted with stepped | ⟨rfl, item, kind, next, action, rfl⟩
  · obtain ⟨after, course, reported⟩ := unopposed.report_eq (past state inline) notice
    rw [reported] at stepped
    exact ⟨after, stepped, course⟩
  · obtain ⟨after, course, reported⟩ :=
      unopposed.report_eq state (.unrecognizedItem kind state.cursor)
    exact ⟨_, moves_of_rules (.skip next action reported), course.past none⟩

/-- What is noted down behind an item costs at most one call more. -/
theorem passes_noted (idle : twin.pending = none) (told : stage.Told start twin earlier)
    (stepped : stage.step twin inline =
      (stage.report (past twin inline) notice).andThen fun state _ => (state, .ok (.more none))) :
    ∃ twinNext, stage.Passes (stage.RefusedSince start) ⟨twin, inline⟩ ⟨twinNext, none⟩ ∧
      (past twin inline).SameCourse twinNext ∧
      stage.Told start twinNext (earlier ++ [notice]) := by
  have course := stage.report_sameCourse (past twin inline) notice
  have toldNow := (told.past inline).trans (stage.report_told (past twin inline) notice)
  rcases reported : stage.report (past twin inline) notice with ⟨after, fault | _⟩ <;>
    rw [reported] at stepped course toldNow
  · have idleAfter : after.pending = none := by
      rw [course.pending, pending_past, idle]
    refine ⟨after, .behind stepped idleAfter ?_, course, toldNow⟩
    exact ⟨notice, earlier, report_error reported, toldNow⟩
  · exact ⟨after, .onward stepped, course, toldNow⟩

theorem report_answer (listens : stage.listener = some listener) (state : State)
    (notice : Notice) :
    (stage.report state notice).2 =
      if listener.refuses state.heard notice then .error (.refused notice) else .ok () := by
  unfold report
  rw [listens]
  dsimp only [State.writeLog]
  split <;> rfl

/-- A bare item that is not understood is noted down at each call until the listener heeds it. -/
theorem passes_unrecognized (listens : stage.listener = some listener) {item : Item} {kind : String}
    (action : item.action = .skip kind) (times : Nat) (idle : twin.pending = none)
    (next : stage.next? twin none = some item)
    (here : notice = .unrecognizedItem kind twin.cursor)
    (heeds : listener.refuses (twin.heard ++ Array.replicate times notice) notice = false)
    (told : stage.Told start twin earlier)
    (echoes : Notice.Echoes (noted ++ [notice]) (earlier ++ [notice])) :
    ∃ twinNext told, stage.Passes (stage.RefusedSince start) ⟨twin, none⟩ ⟨twinNext, none⟩ ∧
      twin.moveOn.SameCourse twinNext ∧ stage.Told start twinNext told ∧
      Notice.Echoes (noted ++ [notice]) told := by
  -- The induction is on a bound for how often this notice is still refused.
  induction times using Nat.strongRecOn generalizing twin earlier with
  | ind times inductionHypothesis =>
      have course := stage.report_sameCourse twin notice
      have heardNow := (stage.report_told twin notice).heard
      have toldNow := told.trans (stage.report_told twin notice)
      have answered := report_answer listens twin notice
      have stepped := step_of_skip next action
      rw [← here] at stepped
      rcases reported : stage.report twin notice with ⟨after, fault | _⟩ <;>
        rw [reported] at course heardNow toldNow answered stepped
      · cases report_error reported
        cases times with
        | zero =>
            rw [Array.replicate_zero, Array.append_empty] at heeds
            rw [heeds] at answered
            cases answered
        | succ times =>
            have idleAfter : after.pending = none := course.pending.trans idle
            have heardAfter : after.heard = twin.heard.push notice := by
              apply Array.toList_inj.mp
              rw [heardNow (by rw [listens]; rfl), Array.toList_push]
            have nextAfter : stage.next? after none = some item := by
              rw [← next, next?, next?, course.cursor]
            have heedsAfter : listener.refuses
                (after.heard ++ Array.replicate times notice) notice = false := by
              rwa [heardAfter, Array.push_eq_append, Array.append_assoc, ← Array.replicate_succ']
            obtain ⟨twinNext, later, passes, courseNext, toldNext, echoesNext⟩ :=
              inductionHypothesis times (Nat.lt_succ_self times) idleAfter nextAfter
                (by rw [course.cursor]; exact here) heedsAfter toldNow
                (.again (by rw [here]; rfl) echoes)
            exact ⟨twinNext, later, .again stepped idleAfter ⟨notice, earlier, rfl, toldNow⟩ passes,
              (course.past none).trans courseNext, toldNext, echoesNext⟩
      · exact ⟨_, _, .onward stepped, course.past none, toldNow.past none, echoes⟩

theorem echoes_silent {other : Stage} (silent : stage.noted? state inline = none)
    (silentToo : other.noted? twin inline = none) (noted told : List Notice)
    (echoes : Notice.Echoes noted told) :
    Notice.Echoes (noted ++ (stage.noted? state inline).toList)
      (told ++ (other.noted? twin inline).toList) := by
  rw [silent, silentToo, Option.toList_none, List.append_nil, List.append_nil]
  exact echoes

theorem resumes_refused (unopposed : stage.Unopposed) (relents : listener.Relents)
    (start : State) :
    stage.Resumes (stage.withListener (some listener))
      ((stage.withListener (some listener)).RefusedSince start)
      (stage.Abreast (stage.withListener (some listener)) start Notice.Echoes) where
  budget := rfl
  moves := by
    intro ⟨state, inline⟩ next twin idle abreast moves
    have sameNoted : (stage.withListener (some listener)).noted? twin inline =
        stage.noted? state inline := noted?_congr abreast.course
    have idleToo : twin.pending = none := abreast.course.pending.trans idle
    cases noted : stage.noted? state inline with
    | none =>
        have silent : stage.noted? twin inline = none := sameNoted.trans noted
        obtain ⟨twinNext, twinMoves, abreastNext⟩ := abreast.moves unopposed idle
          (step_of_silent (some listener) silent) (echoes_silent noted (sameNoted.trans noted))
          moves
        exact ⟨twinNext, .onward twinMoves, abreastNext⟩
    | some notice =>
        obtain ⟨after, toAfter, course⟩ := unopposed.moves_of_noted noted
        cases moves.unique toAfter
        obtain ⟨earlier, told, notedSince, toldSince, echoes⟩ := abreast.notices
        have notedNow := notedSince.trans toAfter.told
        rw [noted] at notedNow
        -- Behind both items the states are the same, whatever is told to whom.
        have courseNext : ∀ {twinNext}, (past twin inline).SameCourse twinNext →
            after.SameCourse twinNext :=
          fun twinCourse => (course.symm.trans (abreast.course.past inline)).trans twinCourse
        rcases step_of_noted (sameNoted.trans noted) with
          stepped | ⟨rfl, item, kind, nextItem, action, here⟩
        · obtain ⟨twinNext, passes, twinCourse, toldNext⟩ :=
            passes_noted idleToo toldSince stepped
          exact ⟨twinNext, passes, courseNext twinCourse, _, _, notedNow, toldNext,
            .once notice echoes⟩
        · obtain ⟨times, heeds⟩ := relents.heeds twin.heard notice
          obtain ⟨twinNext, later, passes, twinCourse, toldNext, echoesNext⟩ :=
            passes_unrecognized rfl action times idleToo nextItem here heeds toldSince
              (.once notice echoes)
          exact ⟨twinNext, passes, courseNext twinCourse, _, _, notedNow, toldNext, echoesNext⟩
  shows := by
    intro ⟨state, inline⟩ final event twin idle abreast halts
    have sameNoted : (stage.withListener (some listener)).noted? twin inline =
        stage.noted? state inline := noted?_congr abreast.course
    cases noted : stage.noted? state inline with
    | none =>
        have silent : stage.noted? twin inline = none := sameNoted.trans noted
        exact abreast.shows unopposed idle (step_of_silent (some listener) silent)
          (echoes_silent noted (sameNoted.trans noted)) halts
    | some notice =>
        obtain ⟨_, toAfter, _⟩ := unopposed.moves_of_noted noted
        exact absurd halts toAfter.not_halts

/-- Take a call that shows an event if the listener refuses nothing, and a listener that refuses
only finitely many notices. When the call is made with this one, and made again as often as it
fails at a refusal, it shows the same event in the end. Nothing is lost: all is the same, but that
notices of items that are not understood may come again. The listener has heard just what is
recorded, in the same order. -/
theorem refusals_lose_nothing (stage : Stage) (unopposed : stage.Unopposed) (listener : Listener)
    (relents : listener.Relents) (state : State) (cue : Cue) (final : State) (event : Event)
    (shown : stage.play state cue = (final, .ok event)) :
    let wary := stage.withListener (some listener)
    ∃ last noted told,
      wary.Retries (wary.RefusedSince state) (wary.play state cue) (last, .ok event) ∧
      final.SameCourse last ∧
      stage.Told state final noted ∧ wary.Told state last told ∧ Notice.Echoes noted told ∧
      ∀ knot, wary.Reachable knot state →
        last.logged = last.notices.toList ∧ last.heard = last.notices := by
  intro wary
  obtain ⟨last, abreast, retries⟩ := (resumes_refused unopposed relents state).play rfl
    (fun _ told toldToo => ⟨.refl _, [], [], told, toldToo, .nil⟩) shown
  obtain ⟨noted, told, toldFinal, toldLast, echoes⟩ := abreast.notices
  refine ⟨last, noted, told, retries, abreast.course, toldFinal, toldLast, echoes, ?_⟩
  intro knot reached
  have whole := reached.recorded_told.trans toldLast
  have recorded : last.notices.toList = state.notices.toList ++ told := whole.recorded
  refine ⟨?_, ?_⟩
  · rw [recorded]
    exact whole.logged
  · apply Array.toList_inj.mp
    rw [recorded]
    exact whole.heard rfl

/-- Behind an answer the listener refuses a bare item that is not understood, a test by what is no
operator and an inline item that is not understood; it has heard of the first one twice. -/
theorem refusals_lose_nothing_behind_answer :
    let unknown : Test := ⟨"mood", .written (.string "almost"), .nil⟩
    let stage := ofKnots [("start", [.choice ⟨none, [.bare "On."]⟩, .unrecognized "image" .nil,
      .condition unknown (.bare "You hum."), .unlessSet "mood" (.unrecognized "sound" .nil),
      .bare "Night falls."])]
    let listener : Listener := ⟨fun heard _ => [0, 2, 3].contains heard.size⟩
    let wary := stage.withListener (some listener)
    let state := (stage.play (.opening "start") .advance).1
    let final := (stage.play state (.commit (.int 1))).1
    listener.Relents ∧
      (stage.play state (.commit (.int 1))).2 = .ok (.line (.ofBody "Night falls.")) ∧
      (wary.play state (.commit (.int 1))).2 =
        .error (.refused (.unrecognizedItem "image" ⟨"start", 2⟩)) ∧
      ∃ last noted told,
        wary.Retries (wary.RefusedSince state) (wary.play state (.commit (.int 1)))
          (last, .ok (.line (.ofBody "Night falls."))) ∧
        final.SameCourse last ∧ stage.Told state final noted ∧ wary.Told state last told ∧
        Notice.Echoes noted told := by
  intro unknown stage listener wary state final
  have relents : listener.Relents := by
    intro told
    refine ⟨4, ?_⟩
    intro count late
    have beyond : count ∉ [0, 2, 3] := by
      simp only [List.mem_cons, List.not_mem_nil, or_false]
      omega
    simpa [listener] using beyond
  obtain ⟨last, noted, told, retries, course, toldFinal, toldLast, echoes, _⟩ :=
    refusals_lose_nothing stage nofun listener relents state (.commit (.int 1)) final _ rfl
  exact ⟨relents, rfl, rfl, last, noted, told, retries, course, toldFinal, toldLast, echoes⟩

end Stage

end StoryGraph
