import Mathlib
import StoryGraph.Proofs.Faults
import StoryGraph.Proofs.Ledger

/-!
Where a session has ended, and how it gets on where it has not. The end is tested for twice, by the
walk that finds nothing to dispatch and from outside. Both tests agree wherever a session can stand,
also in a knot that has shrunk or is gone, so an end that was shown stays for as long as the story
is left alone.

Elsewhere a call that shows something gets the session on: it is then behind the item at which it
stood, in the same knot or in one that was entered since. Visits count before positions, because a
divert leads back to the first position. Only a choice that is met at once is shown with the session
left where it is.
-/

set_option autoImplicit false

namespace StoryGraph

/-- How often knots were entered, all in all. -/
def Ledger.total (ledger : Ledger) : Nat := (ledger.visits.entries.map Prod.snd).sum

/-- How far a session has come: the visits to all knots, then the position in the last one. -/
def State.progress (state : State) : Nat ×ₗ Nat :=
  toLex (state.ledger.total, state.cursor.position)

/-- A session that has ended, and that no call gets on. -/
structure Stage.Over (stage : Stage) (state : State) : Prop where
  ended : stage.hasEnded state = true
  shown : stage.advance state = (state, .ok .theEnd)
  unanswered : ∀ index, stage.commit state index = (state, .error .noPendingChoice)

theorem Table.sum_putEntry_succ (key : String) (entries : List (String × Nat)) :
    ((putEntry key ((valueOf? key entries).getD 0 + 1) entries).map Prod.snd).sum =
      (entries.map Prod.snd).sum + 1 := by
  induction entries with
  | nil => simp [putEntry, valueOf?]
  | cons entry rest inductionHypothesis =>
      by_cases here : entry.1 = key
      · simp only [putEntry, valueOf?, here, if_true, List.map_cons, List.sum_cons,
          Option.getD_some]
        omega
      · simp only [putEntry, valueOf?, here, if_false, List.map_cons, List.sum_cons,
          inductionHypothesis]
        omega

@[simp] theorem Ledger.total_recordVisit (ledger : Ledger) (knot : String) :
    (ledger.recordVisit knot).total = ledger.total + 1 :=
  Table.sum_putEntry_succ knot ledger.visits.entries

namespace State

variable {state after : State}

theorem SamePlace.progress (same : state.SamePlace after) : after.progress = state.progress := by
  rw [State.progress, State.progress, same.ledger, same.cursor]

/-- A visit outweighs any position. -/
theorem progress_lt_enter (sameLedger : after.ledger = state.ledger) (target : String) :
    after.progress < (state.enter target).progress := by
  rw [State.progress, State.progress, Prod.Lex.toLex_lt_toLex, sameLedger]
  left
  simp [State.enter, State.writeLog]

theorem progress_lt_moveOn (state : State) : state.progress < state.moveOn.progress := by
  rw [State.progress, State.progress, Prod.Lex.toLex_lt_toLex]
  exact .inr ⟨rfl, Nat.lt_succ_self _⟩

end State

namespace Stage

variable {stage : Stage} {state after : State} {event : Event}

section progress

theorem progress_le_past (state : State) (inline : Option Item) :
    state.progress ≤ (past state inline).progress := by
  cases inline with
  | none => exact state.progress_lt_moveOn.le
  | some _ => exact le_refl _

theorem samePlace_past {before : State} (same : before.SamePlace after) (inline : Option Item) :
    (past before inline).SamePlace (past after inline) := by
  cases inline with
  | none =>
      refine ⟨?_, same.ledger, same.pending⟩
      simp only [past, State.moveOn, State.moveTo, same.cursor]
  | some _ => exact same

/-- A dispatch that leads on leaves the session behind its item, or further on. -/
theorem Moves.past_progress_le {moment next : Moment} (moves : stage.Moves moment next) :
    (past moment.state moment.inline).progress ≤ next.state.progress := by
  cases moves.rules with
  | goTo => exact (State.progress_lt_enter (ledger_past _ _) _).le
  | @assign _ name _ scalar =>
      apply le_of_eq
      have same : moment.state.SamePlace (moment.state.write name scalar) := ⟨rfl, rfl, rfl⟩
      exact (samePlace_past same _).progress.symm
  | decide _ _ evaluated =>
      apply le_of_eq
      exact (sameCourse_of_evaluate evaluated).samePlace.progress.symm
  | skip _ _ reported =>
      apply le_of_eq
      exact (samePlace_past (sameCourse_of_report reported).samePlace _).progress.symm

theorem Moves.progress_le {moment next : Moment} (moves : stage.Moves moment next) :
    moment.state.progress ≤ next.state.progress :=
  (progress_le_past moment.state moment.inline).trans moves.past_progress_le

theorem Goes.progress_le {count : Nat} {moment last : Moment}
    (goes : stage.Goes count moment last) : moment.state.progress ≤ last.state.progress :=
  goes.keeps (fun reached => moment.state.progress ≤ reached.state.progress)
    (fun _ _ moves before => before.trans moves.progress_le) (le_refl _)

theorem Halts.progress_le {moment : Moment} (halts : stage.Halts moment (after, .ok event)) :
    moment.state.progress ≤ after.progress := by
  cases halts.rules with
  | theEnd => exact le_refl _
  | say => exact progress_le_past _ _
  | ask => exact le_refl _

theorem Ends.progress_le {count : Nat} {moment : Moment}
    (ends : stage.Ends count moment (after, .ok event)) :
    moment.state.progress ≤ after.progress := by
  obtain ⟨_, _, _, goes, halts⟩ := ends.last
  exact goes.progress_le.trans halts.progress_le

theorem Moves.not_choice {moment next : Moment} {choice : Choice}
    (moves : stage.Moves moment next) :
    stage.next? moment.state moment.inline ≠ some (.choice choice) := by
  intro found
  have refuted : ∀ {item : Item} {action : Action},
      stage.next? moment.state moment.inline = some item → item.action = action →
        action = .ask choice := by
    intro item action next asked
    rw [found] at next
    cases next
    exact asked.symm
  cases moves.rules with
  | goTo next action => cases refuted next action
  | assign next action => cases refuted next action
  | decide next action => cases refuted next action
  | skip next action => cases refuted next action

/-- A walk that shows something, from a bare item on, shows that item as a choice or gets on. -/
theorem Ends.choice_or_progress {count : Nat} {item : Item}
    (ends : stage.Ends count ⟨state, none⟩ (after, .ok event))
    (found : stage.next? state none = some item) :
    (∃ choice, item = .choice choice ∧ event = .ofChoice choice ∧
        after.progress = state.progress) ∨
      (∀ choice, item ≠ .choice choice) ∧ state.progress < after.progress := by
  cases ends with
  | here halts =>
      cases halts.rules with
      | theEnd nothing =>
          rw [found] at nothing
          cases nothing
      | say next action =>
          rw [found] at next
          cases next
          right
          refine ⟨?_, state.progress_lt_moveOn⟩
          rintro choice rfl
          cases action
      | @ask _ choice next action =>
          rw [found] at next
          cases next
          exact .inl ⟨choice, Item.eq_choice_of_action action, rfl, rfl⟩
  | later moves ends =>
      right
      constructor
      · rintro choice rfl
        exact moves.not_choice found
      · calc
          state.progress < (past state none).progress := state.progress_lt_moveOn
          _ ≤ _ := moves.past_progress_le
          _ ≤ after.progress := ends.progress_le

end progress

section ended

theorem idle_of_hasEnded (ended : stage.hasEnded state = true) : state.pending = none := by
  rw [hasEnded, Bool.and_eq_true] at ended
  exact Option.isNone_iff_eq_none.mp ended.1

theorem hasEnded_of_samePlace (same : state.SamePlace after) :
    stage.hasEnded after = stage.hasEnded state := by
  simp only [hasEnded, same.cursor, same.pending]

theorem over_of_hasEnded (counted : state.Counted) (ended : stage.hasEnded state = true) :
    stage.Over state := by
  have idle := idle_of_hasEnded ended
  have nothing := (next?_eq_none_iff_hasEnded counted idle).mpr ended
  have halts : stage.Halts ⟨state, none⟩ (state, .ok .theEnd) := by
    simp [Halts, step, nothing, Except.map]
  have walked : stage.walkOn state = (state, .ok .theEnd) :=
    walk_of_ends (.here halts) stage.settings.positive
  refine ⟨ended, by simp [idle, walked], ?_⟩
  intro index
  simp [commit, idle]

/-- Where a walk shows the end, the session has ended. -/
theorem hasEnded_of_walkOn (counted : state.Counted) (idle : state.pending = none)
    (shown : (stage.walkOn state).2 = .ok .theEnd) :
    stage.hasEnded (stage.walkOn state).1 = true := by
  have rules := stage.walkOn_rules state
  generalize stage.walkOn state = outcome at shown rules
  cases rules with
  | spent => cases shown
  | @ended _ last _ _ goes halts =>
      have idleThere : last.state.pending = none := goes.pending.trans idle
      have countedThere : last.state.Counted := goes.counted counted
      cases halts.rules with
      | theEnd nothing =>
          obtain ⟨_, bare⟩ := Option.or_eq_none_iff.mp nothing
          have nothingThere : stage.next? last.state none = none := by rwa [next?_bare]
          exact (next?_eq_none_iff_hasEnded countedThere idleThere).mp nothingThere
      | ask => cases shown
      | say => cases shown
      | astray => cases shown
      | unassignable => cases shown
      | undecided => cases shown
      | unskipped => cases shown

theorem hasEnded_of_play {cue : Cue} (counted : state.Counted)
    (shown : (stage.play state cue).2 = .ok .theEnd) :
    stage.hasEnded (stage.play state cue).1 = true := by
  have rules := stage.play_rules state cue
  generalize stage.play state cue = outcome at rules shown
  cases rules with
  | again => cases shown
  | onward idle => exact hasEnded_of_walkOn counted idle shown
  | answer commit =>
      cases commit with
      | idle => cases shown
      | refused => cases shown
      | failed => cases shown
      | taken _ _ fulfilled =>
          have idle := idle_of_fulfil fulfilled
          exact hasEnded_of_walkOn (fulfil_counted fulfilled (counted.settle ..)) idle shown

theorem hasEnded_iff_advance (counted : state.Counted) :
    stage.hasEnded state = true ↔ stage.advance state = (state, .ok .theEnd) := by
  constructor
  · intro ended
    exact (over_of_hasEnded counted ended).shown
  · intro shown
    have played : (stage.play state .advance).2 = .ok .theEnd := congrArg Prod.snd shown
    have ended := hasEnded_of_play counted played
    rwa [play, shown] at ended

end ended

end Stage

namespace Scene

/-- Calls do not get a session on that has ended. -/
theorem after_call_hasEnded {scene : Scene} (counted : scene.state.Counted)
    (ended : scene.stage.hasEnded scene.state = true) (call : Call) :
    (scene.after (.call call)).stage.hasEnded (scene.after (.call call)).state = true := by
  have isOver := Stage.over_of_hasEnded counted ended
  have same : scene.state.SamePlace (scene.after (.call call)).state := by
    cases call with
    | cue cue =>
        cases cue with
        | advance =>
            rw [after, Stage.after, Stage.play, isOver.shown]
            exact .refl _
        | commit index =>
            rw [after, Stage.after, Stage.play, isOver.unanswered]
            exact .refl _
    | assign name value => exact after_samePlace rfl scene
    | evaluate test => exact after_samePlace rfl scene
  exact (Stage.hasEnded_of_samePlace same).trans ended

theorem over_of_calls {scene : Scene} (counted : scene.state.Counted)
    (ended : scene.stage.hasEnded scene.state = true) (calls : List Call) :
    (scene.run (calls.map .call)).stage.Over (scene.run (calls.map .call)).state := by
  induction calls generalizing scene with
  | nil => exact Stage.over_of_hasEnded counted ended
  | cons call calls inductionHypothesis =>
      rw [List.map_cons, run_cons]
      apply inductionHypothesis (after_counted counted (.call call))
      exact after_call_hasEnded counted ended call

/-- Behind every run from a start, with failed calls and changes of the story among the deeds: the
session has ended exactly if to advance would show the end and change nothing. A call that shows the
end leaves a session that has ended, and neither an advance nor an answer gets it on while there are
calls only and the story stays as it is. Where the session has not ended and no choice waits, an
advance that does not fail gets it on, or shows the choice at which it stands and leaves it
there. -/
theorem hasEnded_agrees_with_theEnd (stage : Stage) (knot : String) (state : State)
    (started : stage.start knot = .ok state) (deeds : List Deed) :
    let now := (Scene.mk stage state).run deeds
    (now.stage.hasEnded now.state = true ↔
      now.stage.advance now.state = (now.state, .ok .theEnd)) ∧
    (∀ cue, (now.stage.play now.state cue).2 = .ok .theEnd → ∀ calls : List Call,
      let later := (now.after (.call (.cue cue))).run (calls.map .call)
      later.stage.Over later.state) ∧
    ∀ after event, now.stage.hasEnded now.state = false → now.state.pending = none →
      now.stage.advance now.state = (after, .ok event) →
        ∃ item, now.stage.story.itemAt? now.state.cursor.knot now.state.cursor.position =
            some item ∧
          ((∃ choice, item = .choice choice ∧ event = .ofChoice choice ∧
              after.progress = now.state.progress) ∨
            (∀ choice, item ≠ .choice choice) ∧ now.state.progress < after.progress) := by
  obtain ⟨_, rfl⟩ := Stage.start_eq_ok.mp started
  intro now
  have counted : now.state.Counted := run_counted (State.counted_opening knot) deeds
  refine ⟨Stage.hasEnded_iff_advance counted, ?_, ?_⟩
  · intro cue shown calls later
    apply over_of_calls (after_counted counted _)
    exact Stage.hasEnded_of_play counted shown
  · intro after event notEnded idle advanced
    simp only [idle, Stage.advance_of_idle] at advanced
    have here : now.stage.next? now.state none =
        now.stage.story.itemAt? now.state.cursor.knot now.state.cursor.position :=
      now.stage.next?_bare now.state
    cases found : now.stage.next? now.state none with
    | none =>
        have ended := (Stage.next?_eq_none_iff_hasEnded counted idle).mp found
        rw [ended] at notEnded
        cases notEnded
    | some item =>
        refine ⟨item, here.symm.trans found, ?_⟩
        have rules := now.stage.walkOn_rules now.state
        rw [advanced] at rules
        cases rules with
        | ended _ goes halts => exact (goes.ends halts).choice_or_progress found

/-- A session that has ended stays so while variables are set and answers are given. A divert that
is put behind its last line gets it on. -/
theorem hasEnded_agrees_with_theEnd_until_divert :
    let stage := Stage.ofKnots [("start", [.bare "Hello."]), ("attic", [.bare "Dust."])]
    let ended := (Scene.mk stage (.opening "start")).run [.call (.cue .advance)]
    let calls : List Call := [.assign "mood" (.int 1), .cue (.commit (.int 1))]
    let later := (ended.after (.call (.cue .advance))).run (calls.map .call)
    let grown := (Scene.mk stage (.opening "start")).run
      [.call (.cue .advance), .put "start" [.bare "Hello.", .divert "attic"]]
    let advanced := grown.stage.advance grown.state
    stage.start "start" = .ok (.opening "start") ∧
      ended.stage.hasEnded ended.state = true ∧ later.stage.Over later.state ∧
      grown.stage.hasEnded grown.state = false ∧
      advanced.2 = .ok (.line (.ofBody "Dust.")) ∧
      grown.state.progress < advanced.1.progress := by
  intro stage ended calls later grown advanced
  have started : stage.start "start" = .ok (.opening "start") := rfl
  obtain ⟨agrees, stays, _⟩ :=
    hasEnded_agrees_with_theEnd stage "start" _ started [.call (.cue .advance)]
  obtain ⟨_, _, onward⟩ := hasEnded_agrees_with_theEnd stage "start" _ started
    [.call (.cue .advance), .put "start" [.bare "Hello.", .divert "attic"]]
  have notEnded : grown.stage.hasEnded grown.state = false := by decide +kernel
  have shown : advanced.2 = .ok (.line (.ofBody "Dust.")) := rfl
  obtain ⟨item, here, choice | progress⟩ := onward _ _ notEnded rfl (Prod.ext rfl shown)
  · obtain ⟨_, rfl, _, _⟩ := choice
    cases here
  · exact ⟨started, agrees.mpr rfl, stays .advance rfl calls, notEnded, shown, progress.2⟩

end Scene

end StoryGraph
