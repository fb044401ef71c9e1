import StoryGraph.Session.Basic

/-!
What one dispatch does, said once. `Onward` has a rule for each way a dispatch can
lead to another one, `Final` a rule for each way it can end a walk, and `step_rules`
says that every dispatch goes one of these ways. Later proofs go through the rules
and do not open `step`.

Reports and tests leave a session where it stands: only notices, the log and what
the listener heard change.
-/

set_option autoImplicit false

namespace StoryGraph

namespace Outcome

variable {α β : Type}

@[simp] theorem andThen_ok (state : State) (answer : α) (next : State → α → Outcome β) :
    andThen (state, .ok answer) next = next state answer := rfl

@[simp] theorem andThen_error (state : State) (fault : Fault) (next : State → α → Outcome β) :
    andThen (state, .error fault) next = (state, .error fault) := rfl

end Outcome

/-- Two states that differ at most in what was noted down for readers. -/
structure State.SameCourse (before after : State) : Prop where
  cursor : after.cursor = before.cursor
  bindings : after.bindings = before.bindings
  ledger : after.ledger = before.ledger
  pending : after.pending = before.pending

theorem State.SameCourse.refl (state : State) : state.SameCourse state := ⟨rfl, rfl, rfl, rfl⟩

theorem State.SameCourse.read {before after : State} (same : before.SameCourse after)
    (name : String) : after.read name = before.read name := by
  simp only [State.read, same.bindings]

/-- The state after a known knot was entered. -/
def State.enter (state : State) (target : String) : State :=
  let ledger := state.ledger.recordVisit target
  { state with ledger, cursor := ⟨target, 1⟩ }.writeLog
    (.diverted target (ledger.visitCount target))

/-- What a test comes to for a value, apart from notices: an answer, or under strict
types the mismatch. -/
def Test.verdict (test : Test) (strictTypes : Bool) (value : Scalar) : Except Fault Bool :=
  match test.operator.resolve with
  | .error _ => .ok false
  | .ok comparison =>
      match comparison.holds (.scalar value) test.operand with
      | .ok answer => .ok answer
      | .error mismatch =>
          if strictTypes then .error (.typeMismatch test.name mismatch) else .ok false

theorem Story.itemAt?_eq_some {story : Story} {knot : String} {position : Nat} {item : Item} :
    story.itemAt? knot position = some item ↔
      ∃ items, story.get? knot = some items ∧ items[position - 1]? = some item :=
  Option.bind_eq_some_iff

namespace Stage

/-- Without an inline item the one at the cursor comes next. -/
theorem next?_bare (stage : Stage) (state : State) :
    stage.next? state none =
      stage.story.itemAt? state.cursor.knot state.cursor.position := Option.none_or

theorem report_sameCourse (stage : Stage) (state : State) (notice : Notice) :
    state.SameCourse (stage.report state notice).1 := by
  unfold report
  split
  · exact ⟨rfl, rfl, rfl, rfl⟩
  · dsimp only
    split <;> exact ⟨rfl, rfl, rfl, rfl⟩

theorem sameCourse_of_report {stage : Stage} {state after : State} {notice : Notice}
    {answer : Except Fault Unit} (reported : stage.report state notice = (after, answer)) :
    state.SameCourse after := by
  have same := stage.report_sameCourse state notice
  rwa [reported] at same

theorem report_error {stage : Stage} {state after : State} {notice : Notice} {fault : Fault}
    (reported : stage.report state notice = (after, .error fault)) :
    fault = .refused notice := by
  unfold report at reported
  split at reported
  · cases reported
  · dsimp only at reported
    split at reported <;> cases reported
    rfl

@[simp] theorem divertTo_known {stage : Stage} {target : String}
    (known : stage.story.contains target = true) (state : State) :
    stage.divertTo state target = (state.enter target, .ok ()) := by
  simp [divertTo, known, State.enter]

@[simp] theorem divertTo_unknown {stage : Stage} {target : String}
    (unknown : stage.story.contains target = false) (state : State) :
    stage.divertTo state target = (state, .error (.unknownDivert target)) := by
  simp [divertTo, unknown]

@[simp] theorem assign_scalar {value : Value} {scalar : Scalar}
    (isScalar : value.scalar? = some scalar) (stage : Stage) (state : State) (name : String) :
    stage.assign state name value = (state.write name scalar, .ok ()) := by
  simp [assign, isScalar]

@[simp] theorem assign_nonScalar {value : Value} (nonScalar : value.scalar? = none)
    (stage : Stage) (state : State) (name : String) :
    stage.assign state name value = (state, .error (.invalidValue name value.typeName)) := by
  simp [assign, nonScalar]

/-- The rules of a test: it comes to its verdict, or the listener refuses a notice. -/
theorem evaluate_cases (stage : Stage) (state : State) (test : Test) :
    state.SameCourse (stage.evaluate state test).1 ∧
      ((stage.evaluate state test).2 =
          test.verdict stage.settings.strictTypes (state.read test.name) ∨
        ∃ notice, (stage.report state notice).2 = .error (.refused notice) ∧
          (stage.evaluate state test).2 = .error (.refused notice)) := by
  -- A report is followed by the answer false, so both notices go the same way.
  have reported : ∀ notice : Notice,
      let outcome := (stage.report state notice).andThen fun state _ => (state, .ok false)
      state.SameCourse outcome.1 ∧
        (outcome.2 = .ok false ∨ ∃ notice,
          (stage.report state notice).2 = .error (.refused notice) ∧
            outcome.2 = .error (.refused notice)) := by
    intro notice
    have same := stage.report_sameCourse state notice
    cases told : stage.report state notice with
    | mk after answer =>
        rw [told] at same
        cases answer with
        | ok _ => exact ⟨same, .inl rfl⟩
        | error fault =>
            obtain rfl := report_error told
            exact ⟨same, .inr ⟨notice, by rw [told], rfl⟩⟩
  unfold evaluate Test.verdict
  cases test.operator.resolve with
  | error unknown => exact reported _
  | ok comparison =>
      dsimp only
      cases comparison.holds (.scalar (state.read test.name)) test.operand with
      | ok answer => exact ⟨.refl state, .inl rfl⟩
      | error mismatch =>
          cases stage.settings.strictTypes with
          | true => exact ⟨.refl state, .inl rfl⟩
          | false => exact reported _

theorem sameCourse_of_evaluate {stage : Stage} {state after : State} {test : Test}
    {answer : Except Fault Bool} (evaluated : stage.evaluate state test = (after, answer)) :
    state.SameCourse after := by
  have same := (stage.evaluate_cases state test).1
  rwa [evaluated] at same

theorem evaluate_error {stage : Stage} {state after : State} {test : Test} {fault : Fault}
    (evaluated : stage.evaluate state test = (after, .error fault)) :
    (∃ mismatch, fault = .typeMismatch test.name mismatch) ∨
      ∃ notice, (stage.report state notice).2 = .error (.refused notice) ∧
        fault = .refused notice := by
  rcases (stage.evaluate_cases state test).2 with judged | ⟨notice, reported, refused⟩
  · left
    rw [evaluated] at judged
    unfold Test.verdict at judged
    split at judged
    · cases judged
    · split at judged
      · cases judged
      · split at judged <;> cases judged
        exact ⟨_, rfl⟩
  · right
    rw [evaluated] at refused
    cases refused
    exact ⟨notice, reported, rfl⟩

end Stage

/-- A point of a walk between two dispatches: the state, and the inline item that comes
next if there is one. -/
structure Moment where
  state : State
  inline : Option Item

/-- The ways a dispatch can lead to another one. -/
inductive Onward (stage : Stage) (state : State) (inline : Option Item) : Moment → Prop where
  | goTo {item target} (next : stage.next? state inline = some item)
      (action : item.action = .goTo target) (known : stage.story.contains target = true) :
      Onward stage state inline ⟨state.enter target, none⟩
  | assign {item name value scalar} (next : stage.next? state inline = some item)
      (action : item.action = .assign name value) (isScalar : value.scalar? = some scalar) :
      Onward stage state inline ⟨Stage.past (state.write name scalar) inline, none⟩
  | decide {item test body after holds} (next : stage.next? state inline = some item)
      (action : item.action = .decide test body)
      (evaluated : stage.evaluate (Stage.past state inline) test = (after, .ok holds)) :
      Onward stage state inline ⟨after, if holds then body else none⟩
  | skip {item kind after} (next : stage.next? state inline = some item)
      (action : item.action = .skip kind)
      (reported : stage.report state (.unrecognizedItem kind state.cursor) = (after, .ok ())) :
      Onward stage state inline ⟨Stage.past after inline, none⟩

/-- The ways a dispatch can end a walk. -/
inductive Final (stage : Stage) (state : State) (inline : Option Item) :
    Outcome Event → Prop where
  | theEnd (nothing : stage.next? state inline = none) :
      Final stage state inline (state, .ok .theEnd)
  | say {item line} (next : stage.next? state inline = some item)
      (action : item.action = .say line) :
      Final stage state inline (Stage.past state inline, .ok (.line line))
  | ask {item choice} (next : stage.next? state inline = some item)
      (action : item.action = .ask choice) :
      Final stage state inline (Stage.present state inline choice, .ok (.ofChoice choice))
  /-- The knot to go to is missing. -/
  | astray {item target} (next : stage.next? state inline = some item)
      (action : item.action = .goTo target) (unknown : stage.story.contains target = false) :
      Final stage state inline (state, .error (.unknownDivert target))
  /-- The value to set is no scalar. -/
  | unassignable {item name value} (next : stage.next? state inline = some item)
      (action : item.action = .assign name value) (nonScalar : value.scalar? = none) :
      Final stage state inline (state, .error (.invalidValue name value.typeName))
  /-- Types are strict, or the listener refuses a notice. -/
  | undecided {item test body after fault} (next : stage.next? state inline = some item)
      (action : item.action = .decide test body)
      (evaluated : stage.evaluate (Stage.past state inline) test = (after, .error fault)) :
      Final stage state inline (after, .error fault)
  /-- The listener refuses to skip. -/
  | unskipped {item kind after fault} (next : stage.next? state inline = some item)
      (action : item.action = .skip kind)
      (reported : stage.report state (.unrecognizedItem kind state.cursor) =
        (after, .error fault)) :
      Final stage state inline (after, .error fault)

theorem Stage.step_rules (stage : Stage) (state : State) (inline : Option Item) :
    (∃ next, Onward stage state inline next ∧
      stage.step state inline = (next.state, .ok (.more next.inline))) ∨
    ∃ outcome, Final stage state inline outcome ∧
      stage.step state inline = (outcome.1, outcome.2.map .done) := by
  unfold step
  cases next : stage.next? state inline with
  | none => exact .inr ⟨_, .theEnd next, rfl⟩
  | some item =>
      dsimp only
      cases action : item.action with
      | say line => exact .inr ⟨_, .say next action, rfl⟩
      | ask choice => exact .inr ⟨_, .ask next action, rfl⟩
      | goTo target =>
          cases known : stage.story.contains target with
          | true => exact .inl ⟨_, .goTo next action known, by simp [known]⟩
          | false => exact .inr ⟨_, .astray next action known, by simp [known, Except.map]⟩
      | assign name value =>
          cases isScalar : value.scalar? with
          | some scalar => exact .inl ⟨_, .assign next action isScalar, by simp [isScalar]⟩
          | none =>
              exact .inr ⟨_, .unassignable next action isScalar, by simp [isScalar, Except.map]⟩
      | decide test body =>
          rcases evaluated : stage.evaluate (past state inline) test with ⟨after, fault | holds⟩
          · exact .inr ⟨_, .undecided next action evaluated, by simp [evaluated, Except.map]⟩
          · exact .inl ⟨_, .decide next action evaluated, by simp [evaluated]⟩
      | skip kind =>
          rcases reported : stage.report state (.unrecognizedItem kind state.cursor) with
            ⟨after, fault | _⟩
          · exact .inr ⟨_, .unskipped next action reported, by simp [reported, Except.map]⟩
          · exact .inl ⟨_, .skip next action reported, by simp [reported]⟩

end StoryGraph
