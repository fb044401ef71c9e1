import StoryGraph.Proofs.Walk

/-!
The calls of a session and the states that they lead to. An answer to a choice is
turned away, or it settles the choice, fulfils what the option asks for and walks
on: `Commit` has a rule for each case.
-/

set_option autoImplicit false

namespace StoryGraph

/-- A session that has entered its first knot and not begun to walk. -/
def State.opening (knot : String) : State where
  cursor := ⟨knot, 1⟩
  bindings := .empty
  ledger := Ledger.empty.recordVisit knot
  pending := none
  notices := #[]
  heard := #[]
  log := #[]

@[simp] theorem State.visitCount_opening (knot other : String) :
    (State.opening knot).ledger.visitCount other = if other = knot then 1 else 0 :=
  Ledger.visitCount_recordVisit .empty knot other

/-- Knots with the standard settings and without a listener. -/
def Stage.ofKnots (knots : List (String × List Item)) : Stage := ⟨.ofList knots, .standard, none⟩

/-- An item for as long as a variable is not set. -/
def Item.unlessSet (name : String) (body : Item) : Item :=
  .condition ⟨name, .known .equal, .nil⟩ body

/-- The faults by which an answer is turned away. -/
def Fault.isRejection : Fault → Bool
  | .noPendingChoice | .invalidChoice _ _ _ | .unprintableIndex => true
  | _ => false

/-- A call that plays on: show what comes next, or answer the choice that waits. -/
inductive Cue where
  | advance
  | commit (index : Value)

inductive Call where
  | cue (cue : Cue)
  | assign (name : String) (value : Value)
  | evaluate (test : Test)

/-- Where a session goes on after a choice, given the cursor while it waits. -/
def Pending.behind (pending : Pending) (cursor : Cursor) : Cursor :=
  if pending.inline then cursor else ⟨cursor.knot, pending.position + 1⟩

@[simp] theorem Pending.knot_behind (pending : Pending) (cursor : Cursor) :
    (pending.behind cursor).knot = cursor.knot := by
  unfold behind
  split <;> rfl

namespace Stage

def play (stage : Stage) (state : State) : Cue → Outcome Event
  | .advance => stage.advance state
  | .commit index => stage.commit state index

/-- The state that a call leaves, whether it fails or not. -/
def after (stage : Stage) (state : State) : Call → State
  | .cue cue => (stage.play state cue).1
  | .assign name value => (stage.assign state name value).1
  | .evaluate test => (stage.evaluate state test).1

/-- The states of sessions that start in a knot. -/
inductive Reachable (stage : Stage) (knot : String) : State → Prop where
  | start {state} : stage.start knot = .ok state → Reachable stage knot state
  | call {state} (call : Call) : Reachable stage knot state →
      Reachable stage knot (stage.after state call)

theorem start_eq_ok {stage : Stage} {knot : String} {state : State} :
    stage.start knot = .ok state ↔
      stage.story.contains knot = true ∧ state = .opening knot := by
  unfold start
  constructor
  · intro started
    split at started
    next known =>
      cases started
      exact ⟨known, rfl⟩
    next => cases started
  · rintro ⟨known, rfl⟩
    rw [if_pos known]
    rfl

/-- Set the variables of an option and go where it leads. -/
def fulfil (stage : Stage) (state : State) (option : ChoiceOption) : Outcome Unit :=
  (stage.assignAll state option.assignments).andThen fun state _ =>
    stage.follow state option.target

/-- The ways an answer can go. -/
inductive Commit (stage : Stage) (state : State) (index : Value) : Outcome Event → Prop where
  | idle (idle : state.pending = none) :
      Commit stage state index (state, .error .noPendingChoice)
  | refused {pending} (waiting : state.pending = some pending)
      (unpicked : picked? pending.choice index = none) :
      Commit stage state index (state, .error (refusal pending index))
  | failed {pending number option after fault} (waiting : state.pending = some pending)
      (picked : picked? pending.choice index = some (number, option))
      (unfulfilled : stage.fulfil (settle state pending number option) option =
        (after, .error fault)) :
      Commit stage state index (after, .error fault)
  | taken {pending number option after} (waiting : state.pending = some pending)
      (picked : picked? pending.choice index = some (number, option))
      (fulfilled : stage.fulfil (settle state pending number option) option =
        (after, .ok ())) :
      Commit stage state index (stage.walkOn after)

theorem commit_of_picked {stage : Stage} {state : State} {index : Value} {pending : Pending}
    {number : Nat} {option : ChoiceOption} (waiting : state.pending = some pending)
    (picked : picked? pending.choice index = some (number, option)) :
    stage.commit state index =
      (stage.fulfil (settle state pending number option) option).andThen fun state _ =>
        stage.walkOn state := by
  unfold commit fulfil
  simp only [waiting, picked]
  rcases stage.assignAll (settle state pending number option) option.assignments with
    ⟨after, fault | _⟩ <;> rfl

theorem commit_rules (stage : Stage) (state : State) (index : Value) :
    Commit stage state index (stage.commit state index) := by
  cases waiting : state.pending with
  | none =>
      have outcome : stage.commit state index = (state, .error .noPendingChoice) := by
        simp [commit, waiting]
      rw [outcome]
      exact .idle waiting
  | some pending =>
      cases picked : picked? pending.choice index with
      | none =>
          have outcome : stage.commit state index = (state, .error (refusal pending index)) := by
            simp [commit, waiting, picked]
          rw [outcome]
          exact .refused waiting picked
      | some pick =>
          obtain ⟨number, option⟩ := pick
          rw [commit_of_picked waiting picked]
          rcases fulfilled : stage.fulfil (settle state pending number option) option with
            ⟨after, fault | _⟩
          · exact .failed waiting picked fulfilled
          · exact .taken waiting picked fulfilled

@[simp] theorem advance_of_idle {stage : Stage} {state : State} (idle : state.pending = none) :
    stage.advance state = stage.walkOn state := by
  simp [advance, idle]

@[simp] theorem advance_of_waiting {stage : Stage} {state : State} {pending : Pending}
    (waiting : state.pending = some pending) :
    stage.advance state = (state, .ok (.ofChoice pending.choice)) := by
  simp [advance, waiting]

/-- The ways a cue can go: a choice is shown again, the session walks on from where it is, or
an answer goes its way. -/
inductive Play (stage : Stage) (state : State) : Cue → Outcome Event → Prop where
  | again {pending} (waiting : state.pending = some pending) :
      Play stage state .advance (state, .ok (.ofChoice pending.choice))
  | onward (idle : state.pending = none) : Play stage state .advance (stage.walkOn state)
  | answer {index outcome} (commit : Commit stage state index outcome) :
      Play stage state (.commit index) outcome

theorem play_rules (stage : Stage) (state : State) (cue : Cue) :
    Play stage state cue (stage.play state cue) := by
  cases cue with
  | advance =>
      rw [play]
      cases waiting : state.pending with
      | none => simpa [waiting] using Play.onward waiting
      | some pending => simpa [waiting] using Play.again waiting
  | commit index => exact .answer (stage.commit_rules state index)

/-- A value picks an option exactly if it is the option's number. -/
theorem picked?_eq_some {choice : Choice} {index : Value} {number : Nat}
    {option : ChoiceOption} :
    picked? choice index = some (number, option) ↔
      index = .int number ∧ 1 ≤ number ∧ choice.options[number - 1]? = some option := by
  constructor
  · intro picked
    simp only [picked?, Option.bind_eq_bind, Option.bind_eq_some_iff] at picked
    obtain ⟨found, isNumber, taken, present, same⟩ := picked
    cases same
    unfold optionNumber? at isNumber
    split at isNumber
    · split at isNumber
      · rename_i value inRange
        cases isNumber
        refine ⟨?_, by omega, present⟩
        rw [Int.toNat_of_nonneg (by omega)]
        rfl
      · cases isNumber
    · cases isNumber
  · rintro ⟨rfl, positive, present⟩
    have inRange := (List.getElem?_eq_some_iff.mp present).1
    have isNumber : optionNumber? choice (.int number) = some number := by
      simp only [optionNumber?, Value.int]
      rw [if_pos (by omega), Int.toNat_natCast]
    simp [picked?, isNumber, present]

@[simp] theorem refusal_isRejection (pending : Pending) (index : Value) :
    (refusal pending index).isRejection = true := by
  unfold refusal
  split <;> rfl

theorem Halts.not_rejection {stage : Stage} {moment : Moment} {after : State} {fault : Fault}
    (halts : stage.Halts moment (after, .error fault)) : fault.isRejection = false := by
  cases halts.rules with
  | astray => rfl
  | unassignable => rfl
  | undecided _ _ evaluated =>
      rcases evaluate_error evaluated with ⟨_, rfl⟩ | ⟨_, _, rfl⟩ <;> rfl
  | unskipped _ _ reported =>
      cases report_error reported
      rfl

theorem walkOn_not_rejection {stage : Stage} {state after : State} {fault : Fault}
    (failed : stage.walkOn state = (after, .error fault)) : fault.isRejection = false := by
  have rules := stage.walkOn_rules state
  rw [failed] at rules
  cases rules with
  | ended _ _ halts => exact halts.not_rejection
  | spent => rfl

section settle

variable (state : State) (pending : Pending) (number : Nat) (option : ChoiceOption)

@[simp] theorem settle_cursor :
    (settle state pending number option).cursor = pending.behind state.cursor := by
  unfold settle Pending.behind
  split <;> rfl

@[simp] theorem settle_bindings :
    (settle state pending number option).bindings = state.bindings := by
  unfold settle
  split <;> rfl

@[simp] theorem settle_read (name : String) :
    (settle state pending number option).read name = state.read name := by
  simp only [State.read, settle_bindings]

@[simp] theorem settle_ledger :
    (settle state pending number option).ledger =
      state.ledger.recordChoice ⟨pending.knot, pending.position, number⟩ := by
  unfold settle
  split <;> rfl

@[simp] theorem settle_pending :
    (settle state pending number option).pending = none := by
  unfold settle
  split <;> rfl

end settle

/-- Setting variables reads nothing off the stage. -/
theorem assignAll_congr (stage other : Stage) (state : State)
    (assignments : List (String × Value)) :
    other.assignAll state assignments = stage.assignAll state assignments := by
  induction assignments generalizing state with
  | nil => rfl
  | cons assignment rest inductionHypothesis =>
      simp only [assignAll, inductionHypothesis]
      rfl

/-- Setting variables changes variables only, also where it fails half-way. -/
theorem assignAll_bindings (stage : Stage) (state : State)
    (assignments : List (String × Value)) :
    ∃ bindings, (stage.assignAll state assignments).1 = { state with bindings } := by
  induction assignments generalizing state with
  | nil => exact ⟨state.bindings, rfl⟩
  | cons assignment rest inductionHypothesis =>
      obtain ⟨name, value⟩ := assignment
      rw [assignAll]
      cases isScalar : value.scalar? with
      | some scalar =>
          simp [isScalar]
          exact inductionHypothesis (state.write name scalar)
      | none => exact ⟨state.bindings, by simp [isScalar]⟩

/-- Setting a variable changes variables only, also where it fails. -/
theorem after_assign (stage : Stage) (state : State) (name : String) (value : Value) :
    ∃ bindings, stage.after state (.assign name value) = { state with bindings } := by
  simp only [after]
  cases isScalar : value.scalar? with
  | some scalar => exact ⟨state.bindings.insert name scalar, by simp [isScalar, State.write]⟩
  | none => exact ⟨state.bindings, by simp [isScalar]⟩

/-- Fulfilling an option sets variables and enters at most one knot, its target. -/
theorem fulfil_cases {stage : Stage} {state after : State} {option : ChoiceOption}
    {answer : Except Fault Unit} (fulfilled : stage.fulfil state option = (after, answer)) :
    ∃ bindings, after = { state with bindings } ∨
      ∃ target, option.target = some target ∧ stage.story.contains target = true ∧
        after = ({ state with bindings }).enter target := by
  obtain ⟨bindings, assigned⟩ := stage.assignAll_bindings state option.assignments
  refine ⟨bindings, ?_⟩
  unfold fulfil at fulfilled
  rcases outcome : stage.assignAll state option.assignments with ⟨middle, fault | _⟩
  · rw [outcome, Outcome.andThen_error] at fulfilled
    cases fulfilled
    exact .inl (by rw [← assigned, outcome])
  · rw [outcome, Outcome.andThen_ok] at fulfilled
    rw [outcome] at assigned
    dsimp only at assigned
    subst assigned
    cases towards : option.target with
    | none =>
        rw [towards] at fulfilled
        cases fulfilled
        exact .inl rfl
    | some target =>
        rw [towards, follow] at fulfilled
        cases known : stage.story.contains target with
        | true =>
            simp [known] at fulfilled
            exact .inr ⟨target, rfl, known, fulfilled.1.symm⟩
        | false =>
            simp [known] at fulfilled
            exact .inl fulfilled.1.symm

theorem assignAll_error {stage : Stage} {state after : State}
    {assignments : List (String × Value)} {fault : Fault}
    (failed : stage.assignAll state assignments = (after, .error fault)) :
    ∃ name typeName, fault = .invalidValue name typeName := by
  induction assignments generalizing state with
  | nil => cases failed
  | cons assignment rest inductionHypothesis =>
      obtain ⟨name, value⟩ := assignment
      rw [assignAll] at failed
      cases isScalar : value.scalar? with
      | some scalar => exact inductionHypothesis (by simpa [isScalar] using failed)
      | none =>
          simp [isScalar] at failed
          exact ⟨name, value.typeName, failed.2.symm⟩

/-- An option fails by a value that is no scalar or by a target that is missing. -/
theorem fulfil_error {stage : Stage} {state after : State} {option : ChoiceOption}
    {fault : Fault} (unfulfilled : stage.fulfil state option = (after, .error fault)) :
    (∃ name typeName, fault = .invalidValue name typeName) ∨
      ∃ target, fault = .unknownDivert target := by
  unfold fulfil at unfulfilled
  rcases assigned : stage.assignAll state option.assignments with ⟨middle, other | _⟩
  · rw [assigned, Outcome.andThen_error] at unfulfilled
    cases unfulfilled
    exact .inl (assignAll_error assigned)
  · rw [assigned, Outcome.andThen_ok] at unfulfilled
    cases towards : option.target with
    | none =>
        rw [towards] at unfulfilled
        cases unfulfilled
    | some target =>
        rw [towards, follow] at unfulfilled
        cases known : stage.story.contains target with
        | true => simp [known] at unfulfilled
        | false =>
            simp [known] at unfulfilled
            exact .inr ⟨target, unfulfilled.2.symm⟩

theorem fulfil_not_rejection {stage : Stage} {state after : State} {option : ChoiceOption}
    {fault : Fault} (unfulfilled : stage.fulfil state option = (after, .error fault)) :
    fault.isRejection = false := by
  rcases fulfil_error unfulfilled with ⟨_, _, rfl⟩ | ⟨_, rfl⟩ <;> rfl

theorem fulfil_pending {stage : Stage} {state after : State} {option : ChoiceOption}
    {answer : Except Fault Unit} (fulfilled : stage.fulfil state option = (after, answer)) :
    after.pending = state.pending := by
  rcases fulfil_cases fulfilled with ⟨bindings, rfl | ⟨target, _, _, rfl⟩⟩ <;> rfl

/-- No choice waits behind an answer, whether or not its option could be fulfilled. -/
theorem idle_of_fulfil {stage : Stage} {state after : State} {pending : Pending} {number : Nat}
    {option : ChoiceOption} {answer : Except Fault Unit}
    (fulfilled : stage.fulfil (settle state pending number option) option = (after, answer)) :
    after.pending = none := by
  simp [fulfil_pending fulfilled]

end Stage

end StoryGraph
