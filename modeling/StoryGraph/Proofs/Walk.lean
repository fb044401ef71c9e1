import StoryGraph.Proofs.Dispatch

/-!
The walk without a budget. A moment is a point between two dispatches. `Goes`
follows the dispatches that lead on, `Ends` follows them up to the one that ends
the walk and counts that one too. A walk with a budget does the same: it ends as
the walk without one where that ends in time, and else stops at the moment at
which the budget is spent.
-/

set_option autoImplicit false

namespace StoryGraph

namespace Stage

/-- The dispatch at a moment leads to another one. -/
def Moves (stage : Stage) (moment next : Moment) : Prop :=
  stage.step moment.state moment.inline = (next.state, .ok (.more next.inline))

/-- The dispatch at a moment ends the walk. -/
def Halts (stage : Stage) (moment : Moment) (outcome : Outcome Event) : Prop :=
  stage.step moment.state moment.inline = (outcome.1, outcome.2.map .done)

/-- So many dispatches lead from one moment to another. -/
inductive Goes (stage : Stage) : Nat → Moment → Moment → Prop where
  | start {moment} : Goes stage 0 moment moment
  | next {count moment next last} :
      stage.Moves moment next → Goes stage count next last → Goes stage (count + 1) moment last

/-- The walk from a moment ends at so-manieth a dispatch with an outcome. -/
inductive Ends (stage : Stage) : Nat → Moment → Outcome Event → Prop where
  | here {moment outcome} : stage.Halts moment outcome → Ends stage 1 moment outcome
  | later {count moment next outcome} :
      stage.Moves moment next → Ends stage count next outcome →
        Ends stage (count + 1) moment outcome

theorem moves_or_halts (stage : Stage) (moment : Moment) :
    (∃ next, stage.Moves moment next) ∨ ∃ outcome, stage.Halts moment outcome := by
  rcases stage.step_rules moment.state moment.inline with
    ⟨next, _, moves⟩ | ⟨outcome, _, halts⟩
  · exact .inl ⟨next, moves⟩
  · exact .inr ⟨outcome, halts⟩

theorem Moves.unique {stage : Stage} {moment first second : Moment}
    (toFirst : stage.Moves moment first) (toSecond : stage.Moves moment second) :
    first = second := by
  unfold Moves at toFirst toSecond
  rw [toFirst] at toSecond
  cases first
  cases second
  cases toSecond
  rfl

theorem Halts.unique {stage : Stage} {moment : Moment} {first second : Outcome Event}
    (toFirst : stage.Halts moment first) (toSecond : stage.Halts moment second) :
    first = second := by
  unfold Halts at toFirst toSecond
  rw [toFirst] at toSecond
  obtain ⟨_, fault | event⟩ := first <;> obtain ⟨_, fault | event⟩ := second <;>
    cases toSecond <;> rfl

theorem Moves.not_halts {stage : Stage} {moment next : Moment} {outcome : Outcome Event}
    (moves : stage.Moves moment next) : ¬ stage.Halts moment outcome := by
  unfold Moves at moves
  intro halts
  unfold Halts at halts
  rw [moves] at halts
  obtain ⟨_, fault | event⟩ := outcome <;> cases halts

theorem Moves.rules {stage : Stage} {moment next : Moment} (moves : stage.Moves moment next) :
    Onward stage moment.state moment.inline next := by
  rcases stage.step_rules moment.state moment.inline with
    ⟨other, onward, stepped⟩ | ⟨outcome, _, stepped⟩
  · cases moves.unique (show stage.Moves moment other from stepped)
    exact onward
  · exact absurd stepped moves.not_halts

theorem Halts.rules {stage : Stage} {moment : Moment} {outcome : Outcome Event}
    (halts : stage.Halts moment outcome) :
    Final stage moment.state moment.inline outcome := by
  rcases stage.step_rules moment.state moment.inline with
    ⟨_, _, stepped⟩ | ⟨other, final, stepped⟩
  · exact absurd halts (Moves.not_halts stepped)
  · cases halts.unique (show stage.Halts moment other from stepped)
    exact final

/-- What every dispatch keeps, a walk keeps. -/
theorem Goes.keeps {stage : Stage} {count : Nat} {moment last : Moment}
    (goes : stage.Goes count moment last) (Kept : Moment → Prop)
    (step : ∀ moment next, stage.Moves moment next → Kept moment → Kept next)
    (kept : Kept moment) : Kept last := by
  induction goes with
  | start => exact kept
  | next moves _ inductionHypothesis => exact inductionHypothesis (step _ _ moves kept)

@[simp] theorem pending_past (state : State) (inline : Option Item) :
    (past state inline).pending = state.pending := by
  cases inline <;> rfl

@[simp] theorem read_past (state : State) (inline : Option Item) (name : String) :
    (past state inline).read name = state.read name := by
  cases inline <;> rfl

/-- While a walk is under way no choice comes to wait. -/
theorem Moves.pending {stage : Stage} {moment next : Moment}
    (moves : stage.Moves moment next) : next.state.pending = moment.state.pending := by
  cases moves.rules with
  | goTo => rfl
  | assign => exact pending_past _ _
  | decide _ _ evaluated =>
      simpa using (sameCourse_of_evaluate evaluated).pending
  | skip _ _ reported =>
      simpa using (sameCourse_of_report reported).pending

theorem Goes.pending {stage : Stage} {count : Nat} {moment last : Moment}
    (goes : stage.Goes count moment last) : last.state.pending = moment.state.pending :=
  goes.keeps (fun reached => reached.state.pending = moment.state.pending)
    (fun _ _ moves same => moves.pending.trans same) rfl

theorem Goes.unique {stage : Stage} {count : Nat} {moment first second : Moment}
    (toFirst : stage.Goes count moment first) (toSecond : stage.Goes count moment second) :
    first = second := by
  induction toFirst with
  | start =>
      cases toSecond
      rfl
  | next moves _ inductionHypothesis =>
      cases toSecond with
      | next moves' rest =>
          cases moves.unique moves'
          exact inductionHypothesis rest

theorem Goes.trans {stage : Stage} {first second : Nat} {moment middle last : Moment}
    (toMiddle : stage.Goes first moment middle) (toLast : stage.Goes second middle last) :
    stage.Goes (first + second) moment last := by
  induction toMiddle with
  | start => simpa using toLast
  | @next count moment next middle moves rest inductionHypothesis =>
      rw [Nat.add_right_comm]
      exact .next moves (inductionHypothesis toLast)

theorem Ends.last {stage : Stage} {count : Nat} {moment : Moment} {outcome : Outcome Event}
    (ends : stage.Ends count moment outcome) :
    ∃ before last, count = before + 1 ∧ stage.Goes before moment last ∧
      stage.Halts last outcome := by
  induction ends with
  | here halts => exact ⟨0, _, rfl, .start, halts⟩
  | later moves _ inductionHypothesis =>
      obtain ⟨before, last, rfl, goes, halts⟩ := inductionHypothesis
      exact ⟨before + 1, last, rfl, .next moves goes, halts⟩

theorem Goes.ends {stage : Stage} {before : Nat} {moment last : Moment} {outcome : Outcome Event}
    (goes : stage.Goes before moment last) (halts : stage.Halts last outcome) :
    stage.Ends (before + 1) moment outcome := by
  induction goes with
  | start => exact .here halts
  | next moves _ inductionHypothesis => exact .later moves (inductionHypothesis halts)

theorem Ends.count_unique {stage : Stage} {count otherCount : Nat} {moment : Moment}
    {outcome other : Outcome Event} (ends : stage.Ends count moment outcome)
    (endsToo : stage.Ends otherCount moment other) : count = otherCount := by
  induction ends generalizing otherCount with
  | here halts =>
      cases endsToo with
      | here => rfl
      | later moves => exact absurd halts moves.not_halts
  | later moves _ inductionHypothesis =>
      cases endsToo with
      | here halts => exact absurd halts moves.not_halts
      | later moves' ends' =>
          cases moves.unique moves'
          rw [inductionHypothesis ends']

theorem Ends.goes_before {stage : Stage} {before count : Nat} {moment : Moment}
    {outcome : Outcome Event} (ends : stage.Ends count moment outcome)
    (early : before < count) : ∃ middle, stage.Goes before moment middle := by
  induction ends generalizing before with
  | here halts =>
      obtain rfl : before = 0 := by omega
      exact ⟨_, .start⟩
  | later moves _ inductionHypothesis =>
      cases before with
      | zero => exact ⟨_, .start⟩
      | succ before =>
          obtain ⟨middle, goes⟩ := inductionHypothesis (Nat.lt_of_succ_lt_succ early)
          exact ⟨middle, .next moves goes⟩

/-- A walk that ends does not go on past its end, and ends the same way from every moment
on its way. -/
theorem Goes.ends_rest {stage : Stage} {gone count : Nat} {moment middle : Moment}
    {outcome : Outcome Event} (goes : stage.Goes gone moment middle)
    (ends : stage.Ends count moment outcome) :
    ∃ rest, count = gone + (rest + 1) ∧ stage.Ends (rest + 1) middle outcome := by
  induction goes generalizing count with
  | start =>
      obtain ⟨before, _, rfl, _, _⟩ := ends.last
      exact ⟨before, by omega, ends⟩
  | next moves _ inductionHypothesis =>
      cases ends with
      | here halts => exact absurd halts moves.not_halts
      | later moves' ends =>
          cases moves.unique moves'
          obtain ⟨rest, split, endsRest⟩ := inductionHypothesis ends
          exact ⟨rest, by omega, endsRest⟩

theorem goes_or_ends (stage : Stage) (budget : Nat) (moment : Moment) :
    (∃ last, stage.Goes budget moment last) ∨
      ∃ count outcome, count ≤ budget ∧ stage.Ends count moment outcome := by
  induction budget generalizing moment with
  | zero => exact .inl ⟨moment, .start⟩
  | succ budget inductionHypothesis =>
      rcases stage.moves_or_halts moment with ⟨next, moves⟩ | ⟨outcome, halts⟩
      · rcases inductionHypothesis next with ⟨last, goes⟩ | ⟨count, outcome, enough, ends⟩
        · exact .inl ⟨last, .next moves goes⟩
        · exact .inr ⟨count + 1, outcome, by omega, .later moves ends⟩
      · exact .inr ⟨1, outcome, by omega, .here halts⟩

@[simp] theorem walk_succ_of_moves {stage : Stage} {moment next : Moment}
    (moves : stage.Moves moment next) (budget : Nat) :
    stage.walk (budget + 1) moment.state moment.inline =
      stage.walk budget next.state next.inline := by
  unfold Moves at moves
  simp [walk, moves]

theorem walk_succ_of_halts {stage : Stage} {moment : Moment} {outcome : Outcome Event}
    (halts : stage.Halts moment outcome) (budget : Nat) :
    stage.walk (budget + 1) moment.state moment.inline = outcome := by
  unfold Halts at halts
  rw [walk, halts]
  obtain ⟨_, fault | event⟩ := outcome <;> rfl

theorem walk_of_ends {stage : Stage} {count budget : Nat} {moment : Moment}
    {outcome : Outcome Event} (ends : stage.Ends count moment outcome)
    (enough : count ≤ budget) : stage.walk budget moment.state moment.inline = outcome := by
  induction ends generalizing budget with
  | here halts =>
      obtain ⟨budget, rfl⟩ := Nat.exists_eq_add_of_le' enough
      exact walk_succ_of_halts halts budget
  | later moves _ inductionHypothesis =>
      obtain ⟨rest, rfl⟩ : ∃ rest, budget = rest + 1 := ⟨budget - 1, by omega⟩
      rw [walk_succ_of_moves moves]
      exact inductionHypothesis (by omega)

theorem walk_of_goes {stage : Stage} {budget : Nat} {moment last : Moment}
    (goes : stage.Goes budget moment last) :
    stage.walk budget moment.state moment.inline =
      (last.state, .error (.navigationLoop stage.settings.maxSteps last.state.cursor)) := by
  induction goes with
  | start => rfl
  | next moves _ inductionHypothesis => rw [walk_succ_of_moves moves, inductionHypothesis]

/-- The ways a walk with a budget can go: it ends in time, or its budget is spent. -/
inductive Walk (stage : Stage) (budget : Nat) (moment : Moment) : Outcome Event → Prop where
  | ended {before last outcome} (enough : before + 1 ≤ budget)
      (goes : stage.Goes before moment last) (halts : stage.Halts last outcome) :
      Walk stage budget moment outcome
  | spent {last} (goes : stage.Goes budget moment last) :
      Walk stage budget moment
        (last.state, .error (.navigationLoop stage.settings.maxSteps last.state.cursor))

theorem walk_rules (stage : Stage) (budget : Nat) (moment : Moment) :
    stage.Walk budget moment (stage.walk budget moment.state moment.inline) := by
  rcases stage.goes_or_ends budget moment with ⟨last, goes⟩ | ⟨count, outcome, enough, ends⟩
  · rw [walk_of_goes goes]
    exact .spent goes
  · rw [walk_of_ends ends enough]
    obtain ⟨before, last, rfl, goes, halts⟩ := ends.last
    exact .ended enough goes halts

theorem walkOn_rules (stage : Stage) (state : State) :
    stage.Walk stage.settings.maxSteps ⟨state, none⟩ (stage.walkOn state) :=
  stage.walk_rules stage.settings.maxSteps ⟨state, none⟩

end Stage

end StoryGraph
