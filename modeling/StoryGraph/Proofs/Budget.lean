import StoryGraph.Proofs.Calls

/-!
The budget of a call is exact. A call with a budget is the walk without one, cut
off at the moment when the budget is spent: each dispatch costs one, of an item in
a knot, of an inline item and of the end alike, and what an answer sets or enters
before it walks on costs nothing.
-/

set_option autoImplicit false

namespace StoryGraph.Stage

/-- The stage with another budget. -/
def withBudget (stage : Stage) (budget : Nat) (positive : 0 < budget) : Stage :=
  { stage with settings := { stage.settings with maxSteps := budget, positive } }

/-- An outcome is what a budget makes of the walk from a state: the end of the walk
without a budget if that comes in time, and else the fault at the moment when the
budget is spent. -/
structure Budgeted (stage : Stage) (budget : Nat) (state : State)
    (outcome : Outcome Event) : Prop where
  within : ∀ count ending, stage.Ends count ⟨state, none⟩ ending → count ≤ budget →
    outcome = ending
  beyond : (∀ count ending, stage.Ends count ⟨state, none⟩ ending → budget < count) →
    ∃ last, stage.Goes budget ⟨state, none⟩ last ∧
      outcome = (last.state, .error (.navigationLoop budget last.state.cursor))

section withBudget

variable {stage : Stage} {budget : Nat} {positive : 0 < budget}

-- A dispatch does not read the budget, so these hold by definition, step by step.
theorem Goes.withBudget {count : Nat} {moment last : Moment}
    (goes : stage.Goes count moment last) :
    (stage.withBudget budget positive).Goes count moment last := by
  induction goes with
  | start => exact .start
  | next moves _ inductionHypothesis => exact .next moves inductionHypothesis

theorem Ends.withBudget {count : Nat} {moment : Moment} {outcome : Outcome Event}
    (ends : stage.Ends count moment outcome) :
    (stage.withBudget budget positive).Ends count moment outcome := by
  induction ends with
  | here halts => exact .here halts
  | later moves _ inductionHypothesis => exact .later moves inductionHypothesis

theorem walkOn_budgeted (stage : Stage) (budget : Nat) (positive : 0 < budget)
    (state : State) :
    stage.Budgeted budget state ((stage.withBudget budget positive).walkOn state) where
  within := fun _ _ ends enough => walk_of_ends ends.withBudget enough
  beyond := by
    intro late
    rcases stage.goes_or_ends budget ⟨state, none⟩ with
      ⟨last, goes⟩ | ⟨count, outcome, enough, ends⟩
    · exact ⟨last, goes, walk_of_goes goes.withBudget⟩
    · exact absurd (late count outcome ends) (by omega)

@[simp] theorem fulfil_withBudget (state : State) (option : ChoiceOption) :
    (stage.withBudget budget positive).fulfil state option = stage.fulfil state option := by
  unfold fulfil
  rw [assignAll_congr stage]
  rfl

end withBudget

/-- What ends within a budget ends the same way within a larger one. -/
theorem Budgeted.enlarge {stage : Stage} {budget larger : Nat} {state : State}
    {outcome other : Outcome Event} (budgeted : stage.Budgeted budget state outcome)
    (enlarged : stage.Budgeted larger state other) (enough : budget ≤ larger)
    (inTime : ∀ place, outcome.2 ≠ .error (.navigationLoop budget place)) :
    other = outcome := by
  rcases stage.goes_or_ends budget ⟨state, none⟩ with
    ⟨last, goes⟩ | ⟨count, ending, early, ends⟩
  · obtain ⟨last, _, spent⟩ := budgeted.beyond fun count ending ends => by
      obtain ⟨rest, rfl, _⟩ := goes.ends_rest ends
      omega
    exact absurd (by rw [spent]) (inTime last.state.cursor)
  · rw [budgeted.within count ending ends early,
      enlarged.within count ending ends (Nat.le_trans early enough)]

/-- Only a walk reads the budget, so a larger one changes what calls do only where a walk
runs out of it. -/
theorem play_enlarge {stage : Stage} {state : State} {budget larger : Nat}
    {positive : 0 < budget} {positive' : 0 < larger} (enough : budget ≤ larger) (cue : Cue)
    (inTime : ∀ place, ((stage.withBudget budget positive).play state cue).2 ≠
      .error (.navigationLoop budget place)) :
    (stage.withBudget larger positive').play state cue =
      (stage.withBudget budget positive).play state cue := by
  have walks : ∀ start,
      (∀ place, ((stage.withBudget budget positive).walkOn start).2 ≠
        .error (.navigationLoop budget place)) →
      (stage.withBudget larger positive').walkOn start =
        (stage.withBudget budget positive).walkOn start := by
    intro start
    have budgeted := stage.walkOn_budgeted budget positive start
    exact budgeted.enlarge (stage.walkOn_budgeted larger positive' start) enough
  cases cue with
  | advance =>
      cases waiting : state.pending with
      | none =>
          simp only [play, advance_of_idle, waiting] at inTime ⊢
          exact walks state inTime
      | some pending => simp [play, waiting]
  | commit index =>
      simp only [play] at inTime ⊢
      cases waiting : state.pending with
      | none => simp only [commit, waiting]
      | some pending =>
          cases picked : picked? pending.choice index with
          | none => simp only [commit, waiting, picked]
          | some pick =>
              obtain ⟨number, option⟩ := pick
              simp only [commit_of_picked waiting picked, fulfil_withBudget] at inTime ⊢
              rcases fulfilled : stage.fulfil (settle state pending number option) option with
                ⟨settled, fault | _⟩
              · rfl
              · rw [fulfilled] at inTime
                exact walks settled inTime

/-- A call that plays on with a budget, on a state with a choice that waits or without:
a walk is cut off exactly at the budget, an answer pays nothing for what its option asks
for, and a larger budget changes no outcome but the fault of a budget that is spent. -/
theorem play_exactly_budgeted (stage : Stage) (state : State) (budget : Nat)
    (positive : 0 < budget) :
    (state.pending = none →
      stage.Budgeted budget state ((stage.withBudget budget positive).advance state)) ∧
    (∀ index pending number option, state.pending = some pending →
      picked? pending.choice index = some (number, option) →
      (∀ settled, stage.fulfil (settle state pending number option) option =
          (settled, .ok ()) →
        stage.Budgeted budget settled
          ((stage.withBudget budget positive).commit state index)) ∧
      ∀ settled fault, stage.fulfil (settle state pending number option) option =
          (settled, .error fault) →
        (stage.withBudget budget positive).commit state index = (settled, .error fault)) ∧
    ∀ cue larger, (enough : budget ≤ larger) →
      (∀ place, ((stage.withBudget budget positive).play state cue).2 ≠
        .error (.navigationLoop budget place)) →
      (stage.withBudget larger (Nat.lt_of_lt_of_le positive enough)).play state cue =
        (stage.withBudget budget positive).play state cue := by
  refine ⟨?_, ?_, ?_⟩
  · intro idle
    simpa [idle] using stage.walkOn_budgeted budget positive state
  · intro index pending number option waiting picked
    rw [commit_of_picked waiting picked, fulfil_withBudget]
    constructor
    · intro settled fulfilled
      simpa [fulfilled] using stage.walkOn_budgeted budget positive settled
    · intro settled fault unfulfilled
      simp [unfulfilled]
  · intro cue larger enough inTime
    exact play_enlarge enough cue inTime

/-- A line behind a condition is the second dispatch: a budget of two shows it, and a
budget of one is spent at the inline line, with the cursor behind the condition. -/
theorem play_exactly_budgeted_behind_condition :
    let stage := ofKnots [("start", [.unlessSet "mood" (.bare "Hello.")])]
    stage.Ends 2 ⟨.opening "start", none⟩
        ((State.opening "start").moveOn, .ok (.line (.ofBody "Hello."))) ∧
      (stage.withBudget 2 (by decide)).advance (.opening "start") =
        ((State.opening "start").moveOn, .ok (.line (.ofBody "Hello."))) ∧
      (stage.withBudget 1 (by decide)).advance (.opening "start") =
        ((State.opening "start").moveOn, .error (.navigationLoop 1 ⟨"start", 2⟩)) := by
  intro stage
  have moves : stage.Moves ⟨.opening "start", none⟩
      ⟨(State.opening "start").moveOn, some (.bare "Hello.")⟩ := rfl
  have ends : stage.Ends 2 ⟨.opening "start", none⟩
      ((State.opening "start").moveOn, .ok (.line (.ofBody "Hello."))) :=
    .later moves (.here rfl)
  have goes : stage.Goes 1 ⟨.opening "start", none⟩
      ⟨(State.opening "start").moveOn, some (.bare "Hello.")⟩ := .next moves .start
  refine ⟨ends, ?_, ?_⟩
  · exact ((stage.play_exactly_budgeted (.opening "start") 2 (by decide)).1 rfl).within _ _
      ends (by decide)
  · obtain ⟨last, reached, spent⟩ :=
      ((stage.play_exactly_budgeted (.opening "start") 1 (by decide)).1 rfl).beyond
        fun count ending ends => by
          obtain ⟨rest, rfl, _⟩ := goes.ends_rest ends
          omega
    cases reached.unique goes
    exact spent

end StoryGraph.Stage
