import StoryGraph.Proofs.Sessions

/-!
What the course of a walk depends on: the cursor, the inline item and the variables. Two
walks from one configuration go through the same configurations for as long as either
goes on, whatever was visited, recorded or noted down before. A walk that comes to a
configuration a second time therefore comes to it again and again, and does not end.

A listener that refuses a notice would stop one walk and not the other, so none does here.
-/

set_option autoImplicit false

namespace StoryGraph

/-- What the course of a walk depends on. -/
structure Configuration where
  cursor : Cursor
  inline : Option Item
  bindings : Table Scalar

def Moment.configuration (moment : Moment) : Configuration :=
  ⟨moment.state.cursor, moment.inline, moment.state.bindings⟩

namespace Stage

/-- The walk from a state, without a budget, dispatches twice at one configuration. -/
def Repeats (stage : Stage) (state : State) : Prop :=
  ∃ earlier later first second, earlier < later ∧
    stage.Goes earlier ⟨state, none⟩ first ∧ stage.Goes later ⟨state, none⟩ second ∧
      first.configuration = second.configuration

variable {stage : Stage}

/-- Each rule that leads on is a dispatch that does. -/
theorem moves_of_rules {state : State} {inline : Option Item} {next : Moment}
    (onward : Onward stage state inline next) : stage.Moves ⟨state, inline⟩ next := by
  unfold Moves step
  cases onward with
  | goTo next action known => simp [next, action, known]
  | assign next action isScalar => simp [next, action, isScalar]
  | decide next action evaluated => simp [next, action, evaluated]
  | skip next action reported => simp [next, action, reported]

/-- Each rule that ends a walk is a dispatch that does. -/
theorem halts_of_rules {state : State} {inline : Option Item} {outcome : Outcome Event}
    (final : Final stage state inline outcome) : stage.Halts ⟨state, inline⟩ outcome := by
  unfold Halts step
  cases final with
  | theEnd nothing => simp [nothing, Except.map]
  | say next action => simp [next, action, Except.map]
  | ask next action => simp [next, action, Except.map]
  | astray next action unknown => simp [next, action, unknown, Except.map]
  | unassignable next action nonScalar => simp [next, action, nonScalar, Except.map]
  | undecided next action evaluated => simp [next, action, evaluated, Except.map]
  | unskipped next action reported => simp [next, action, reported, Except.map]

theorem Unopposed.evaluate (unopposed : stage.Unopposed) (state : State) (test : Test) :
    (stage.evaluate state test).2 =
      test.verdict stage.settings.strictTypes (state.read test.name) := by
  rcases (stage.evaluate_cases state test).2 with judged | ⟨notice, refused, _⟩
  · exact judged
  · rw [unopposed.report] at refused
    cases refused

@[simp] theorem bindings_past (state : State) (inline : Option Item) :
    (past state inline).bindings = state.bindings := by
  cases inline <;> rfl

/-- What a dispatch leads to, up to the configuration, is read off the configuration. -/
theorem Unopposed.onward_alike (unopposed : stage.Unopposed) {state twin : State}
    {inline : Option Item} {next : Moment} (sameCursor : twin.cursor = state.cursor)
    (sameBindings : twin.bindings = state.bindings) (onward : Onward stage state inline next) :
    ∃ twinNext, Onward stage twin inline twinNext ∧
      twinNext.configuration = next.configuration := by
  have sameItem : stage.next? twin inline = stage.next? state inline := by
    simp only [next?, sameCursor]
  have sameCursorPast : (past twin inline).cursor = (past state inline).cursor :=
    cursor_past_congr sameCursor
  cases onward with
  | goTo next action known =>
      refine ⟨_, .goTo (sameItem.trans next) action known, ?_⟩
      simp [Moment.configuration, State.enter, State.writeLog, sameBindings]
  | @assign item name value scalar next action isScalar =>
      refine ⟨_, .assign (sameItem.trans next) action isScalar, ?_⟩
      have sameCursorWritten : (past (twin.write name scalar) inline).cursor =
          (past (state.write name scalar) inline).cursor := cursor_past_congr sameCursor
      have sameWritten : (twin.write name scalar).bindings =
          (state.write name scalar).bindings := by simp [State.write, sameBindings]
      simp [Moment.configuration, sameCursorWritten, bindings_past, sameWritten]
  | @decide item test body after holds next action evaluated =>
      have sameRead : (past twin inline).read test.name = (past state inline).read test.name := by
        simp only [State.read, bindings_past, sameBindings]
      have answer : (stage.evaluate (past twin inline) test).2 = .ok holds := by
        rw [unopposed.evaluate, sameRead, ← unopposed.evaluate, evaluated]
      rcases twinEvaluated : stage.evaluate (past twin inline) test with ⟨twinAfter, other⟩
      rw [twinEvaluated] at answer
      cases answer
      refine ⟨_, .decide (sameItem.trans next) action twinEvaluated, ?_⟩
      have same := sameCourse_of_evaluate evaluated
      have twinSame := sameCourse_of_evaluate twinEvaluated
      simp [Moment.configuration, same.cursor, twinSame.cursor, sameCursorPast, same.bindings,
        twinSame.bindings, bindings_past, sameBindings]
  | @skip item kind after next action reported =>
      have answer := unopposed.report twin (.unrecognizedItem kind twin.cursor)
      rcases twinReported : stage.report twin (.unrecognizedItem kind twin.cursor) with
        ⟨twinAfter, other⟩
      rw [twinReported] at answer
      cases answer
      refine ⟨_, .skip (sameItem.trans next) action twinReported, ?_⟩
      have same := sameCourse_of_report reported
      have twinSame := sameCourse_of_report twinReported
      have sameCursorAfter : (past twinAfter inline).cursor = (past after inline).cursor :=
        cursor_past_congr (twinSame.cursor.trans (sameCursor.trans same.cursor.symm))
      simp [Moment.configuration, sameCursorAfter, bindings_past, same.bindings,
        twinSame.bindings, sameBindings]

theorem Moves.alike (unopposed : stage.Unopposed) {moment next twin : Moment}
    (moves : stage.Moves moment next) (alike : twin.configuration = moment.configuration) :
    ∃ twinNext, stage.Moves twin twinNext ∧
      twinNext.configuration = next.configuration := by
  obtain ⟨state, inline⟩ := moment
  obtain ⟨other, otherInline⟩ := twin
  obtain ⟨sameCursor, sameInline, sameBindings⟩ := Configuration.mk.inj alike
  dsimp only at sameCursor sameInline sameBindings
  subst sameInline
  obtain ⟨twinNext, onward, same⟩ :=
    unopposed.onward_alike sameCursor sameBindings moves.rules
  exact ⟨twinNext, moves_of_rules onward, same⟩

/-- A walk that ends does so after as many dispatches from every moment at the same
configuration. -/
theorem Ends.alike (unopposed : stage.Unopposed) {count : Nat} {moment twin : Moment}
    {outcome : Outcome Event} (ends : stage.Ends count moment outcome)
    (alike : twin.configuration = moment.configuration) :
    ∃ twinOutcome, stage.Ends count twin twinOutcome := by
  induction ends generalizing twin with
  | @here moment outcome halts =>
      rcases stage.moves_or_halts twin with ⟨twinNext, moves⟩ | ⟨twinOutcome, twinHalts⟩
      · obtain ⟨next, moves, _⟩ := moves.alike unopposed alike.symm
        exact absurd halts moves.not_halts
      · exact ⟨twinOutcome, .here twinHalts⟩
  | later moves _ inductionHypothesis =>
      obtain ⟨twinNext, twinMoves, same⟩ := moves.alike unopposed alike
      obtain ⟨twinOutcome, ends⟩ := inductionHypothesis same
      exact ⟨twinOutcome, .later twinMoves ends⟩

/-- A walk that comes to one configuration twice does not end. -/
theorem Repeats.not_ends (unopposed : stage.Unopposed) {state : State}
    (repeats : stage.Repeats state) {count : Nat} {outcome : Outcome Event} :
    ¬ stage.Ends count ⟨state, none⟩ outcome := by
  obtain ⟨earlier, later, first, second, before, toFirst, toSecond, alike⟩ := repeats
  intro ends
  -- From the second moment on as many dispatches would be left as from the first.
  obtain ⟨rest, counted, endsFirst⟩ := toFirst.ends_rest ends
  obtain ⟨twinRest, twinCounted, endsSecond⟩ := toSecond.ends_rest ends
  obtain ⟨twinOutcome, twinEnds⟩ := endsFirst.alike unopposed alike.symm
  have same : rest + 1 = twinRest + 1 := twinEnds.count_unique endsSecond
  omega

end Stage

end StoryGraph
