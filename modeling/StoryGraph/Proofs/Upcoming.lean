import StoryGraph.Proofs.Places
import StoryGraph.Proofs.Telling

/-!
A session between two calls is a telling under way: `upcoming` are the items from the
cursor on, and behind a condition the inline item comes before them. A dispatch that
leads on takes the first of the items to come, and one that ends the walk tells what it
shows or fails as the telling does.

Only the cursor has to be found again, and for this the session has to stand at real
content.
-/

set_option autoImplicit false

namespace StoryGraph

/-- What a session remembers, as a telling does. -/
def State.memory (state : State) : Memory where
  bindings := state.bindings
  visits := state.ledger.visits
  taken := state.ledger.choices.toList.map ChoiceRecord.option

/-- The items of a knot from a position on. -/
def Story.upcoming (story : Story) (cursor : Cursor) : List Item :=
  ((story.get? cursor.knot).getD []).drop (cursor.position - 1)

/-- The items to come at a moment of a walk. -/
def Story.content (story : Story) (moment : Moment) : List Item :=
  moment.inline.toList ++ story.upcoming moment.state.cursor

/-- How a telling goes on from a state between two calls. -/
def Stage.resume (stage : Stage) (fuel : Nat) (state : State) (answers : List Nat) : Telling :=
  let goOn := stage.story.tell stage.settings.strictTypes fuel
  match state.pending with
  | none => goOn (stage.story.upcoming state.cursor) state.memory answers
  | some pending =>
      stage.story.answer goOn pending.choice (stage.story.upcoming (pending.behind state.cursor))
        state.memory answers

/-- A telling that goes on behind a walk, unless the walk came to the end or failed. -/
def Telling.behind (rest : Telling) : Outcome Event → Telling
  | (after, .error fault) => ⟨[], .failed fault, after.memory⟩
  | (after, .ok event) =>
      if event = .theEnd then ⟨[.theEnd], .finished, after.memory⟩ else rest.after event

theorem State.SameCourse.memory {before after : State} (same : before.SameCourse after) :
    after.memory = before.memory := by
  simp only [State.memory, same.bindings, same.ledger]

@[simp] theorem Story.upcoming_start {story : Story} {knot : String} {items : List Item}
    (found : story.get? knot = some items) : story.upcoming ⟨knot, 1⟩ = items := by
  simp [upcoming, found]

namespace Stage

variable {stage : Stage} {state : State} {inline : Option Item}

@[simp] theorem memory_past (state : State) (inline : Option Item) :
    (past state inline).memory = state.memory := by
  cases inline <;> rfl

theorem cursor_past_congr {other : State} (same : other.cursor = state.cursor) :
    (past other inline).cursor = (past state inline).cursor := by
  cases inline with
  | none => simp [past, State.moveOn, State.moveTo, same]
  | some _ => exact same

theorem content_of_next {item : Item} (positive : 1 ≤ state.cursor.position)
    (next : stage.next? state inline = some item) :
    stage.story.content ⟨state, inline⟩ =
      item :: stage.story.upcoming (past state inline).cursor := by
  cases inline with
  | some _ =>
      cases next
      rfl
  | none =>
      rw [next?_bare, Story.itemAt?_eq_some] at next
      obtain ⟨items, found, here⟩ := next
      obtain ⟨inside, here⟩ := List.getElem?_eq_some_iff.mp here
      have behind : state.cursor.position - 1 + 1 = state.cursor.position + 1 - 1 := by omega
      simp only [Story.content, Story.upcoming, Option.toList_none, List.nil_append, found,
        Option.getD_some, past, State.moveOn, State.moveTo]
      rw [List.drop_eq_getElem_cons inside, here, behind]

@[simp] theorem content_of_nothing (nothing : stage.next? state inline = none) :
    stage.story.content ⟨state, inline⟩ = [] := by
  cases inline with
  | some _ => cases nothing
  | none =>
      simp only [next?_bare, Story.itemAt?, Option.bind_eq_bind] at nothing
      simp only [Story.content, Story.upcoming, Option.toList_none, List.nil_append]
      cases found : stage.story.get? state.cursor.knot with
      | none => exact List.drop_nil
      | some items =>
          rw [found] at nothing
          exact List.drop_eq_nil_of_le (List.getElem?_eq_none_iff.mp nothing)

/-- The verdict of a test that was evaluated, unless the listener refused. -/
theorem verdict_of_evaluate {after : State} {test : Test} {answer : Except Fault Bool}
    (evaluated : stage.evaluate (past state inline) test = (after, answer))
    (heeded : ∀ notice, answer ≠ .error (.refused notice)) :
    test.verdict stage.settings.strictTypes (state.memory.read test.name) = answer := by
  have sameRead : (past state inline).read test.name = state.memory.read test.name := by
    cases inline <;> rfl
  rcases (stage.evaluate_cases (past state inline) test).2 with judged | ⟨notice, _, refused⟩
  · rw [evaluated, sameRead] at judged
    exact judged.symm
  · rw [evaluated] at refused
    exact absurd refused (heeded notice)

theorem tell_of_moves {moment next : Moment} (placed : moment.InPlace stage.story)
    (moves : stage.Moves moment next) (fuel : Nat) (answers : List Nat) :
    stage.story.tell stage.settings.strictTypes (fuel + 1) (stage.story.content moment)
        moment.state.memory answers =
      stage.story.tell stage.settings.strictTypes fuel (stage.story.content next)
        next.state.memory answers := by
  obtain ⟨state, inline⟩ := moment
  obtain ⟨_, _, positive, _⟩ := placed.state.cursor
  cases moves.rules with
  | goTo next action known =>
      obtain ⟨items, found⟩ := Option.isSome_iff_exists.mp known
      rw [content_of_next positive next, Story.tell_cons, action]
      simp only [found]
      rw [show stage.story.content ⟨state.enter _, none⟩ = items from
        Story.upcoming_start found]
      rfl
  | assign next action isScalar =>
      rw [content_of_next positive next, Story.tell_cons, action]
      simp only [isScalar]
      rw [memory_past]
      cases inline <;> rfl
  | decide next action evaluated =>
      have same := sameCourse_of_evaluate evaluated
      rw [content_of_next positive next, Story.tell_cons, action]
      simp only [verdict_of_evaluate evaluated (by simp), Story.content]
      simp [same.cursor, same.memory]
  | skip next action reported =>
      have same := sameCourse_of_report reported
      rw [content_of_next positive next, Story.tell_cons, action, memory_past, same.memory]
      simp only [Story.content, Option.toList_none, List.nil_append]
      rw [cursor_past_congr same.cursor]

theorem tell_of_goes {count : Nat} {moment last : Moment}
    (goes : stage.Goes count moment last) (placed : moment.InPlace stage.story)
    (fuel : Nat) (answers : List Nat) :
    stage.story.tell stage.settings.strictTypes (fuel + count) (stage.story.content moment)
        moment.state.memory answers =
      stage.story.tell stage.settings.strictTypes fuel (stage.story.content last)
        last.state.memory answers := by
  induction goes with
  | start => rfl
  | next moves _ inductionHypothesis =>
      rw [← Nat.add_assoc, tell_of_moves placed moves]
      exact inductionHypothesis (moves.inPlace placed)

theorem Halts.memory {moment : Moment} {outcome : Outcome Event}
    (halts : stage.Halts moment outcome) : outcome.1.memory = moment.state.memory := by
  cases halts.rules with
  | theEnd => rfl
  | say => simp
  | ask => rfl
  | astray => rfl
  | unassignable => rfl
  | undecided _ _ evaluated =>
      simpa using (sameCourse_of_evaluate evaluated).memory
  | unskipped _ _ reported => exact (sameCourse_of_report reported).memory

theorem Moves.taken {moment next : Moment} (moves : stage.Moves moment next) :
    next.state.memory.taken = moment.state.memory.taken := by
  cases moves.rules with
  | goTo => rfl
  | assign =>
      rw [memory_past]
      rfl
  | decide _ _ evaluated =>
      simp [(sameCourse_of_evaluate evaluated).memory]
  | skip _ _ reported =>
      simp [(sameCourse_of_report reported).memory]

theorem Goes.taken {count : Nat} {moment last : Moment}
    (goes : stage.Goes count moment last) :
    last.state.memory.taken = moment.state.memory.taken :=
  goes.keeps (fun reached => reached.state.memory.taken = moment.state.memory.taken)
    (fun _ _ moves same => moves.taken.trans same) rfl

/-- A dispatch that ends a walk tells what it shows or fails as the telling does, unless it
was the listener that refused. -/
theorem tell_of_halts {moment : Moment} {outcome : Outcome Event}
    (placed : moment.InPlace stage.story) (halts : stage.Halts moment outcome)
    (heeded : ∀ notice, outcome.2 ≠ .error (.refused notice)) (fuel : Nat)
    (answers : List Nat) :
    stage.story.tell stage.settings.strictTypes (fuel + 1) (stage.story.content moment)
        moment.state.memory answers =
      (stage.resume fuel outcome.1 answers).behind outcome := by
  obtain ⟨state, inline⟩ := moment
  obtain ⟨_, _, positive, _⟩ := placed.state.cursor
  cases halts.rules with
  | theEnd nothing =>
      rw [content_of_nothing nothing]
      rfl
  | say next action =>
      have idle : (past state inline).pending = none := (pending_past _ _).trans placed.idle
      rw [content_of_next positive next, Story.tell_cons, action, resume, idle, memory_past]
      rfl
  | ask next action =>
      rw [content_of_next positive next, Story.tell_cons, action]
      cases inline <;> rfl
  | astray next action unknown =>
      have missing := Option.isNone_iff_eq_none.mp (Option.isSome_eq_false_iff.mp unknown)
      rw [content_of_next positive next, Story.tell_cons, action]
      simp only [missing]
      rfl
  | unassignable next action nonScalar =>
      rw [content_of_next positive next, Story.tell_cons, action]
      simp only [nonScalar]
      rfl
  | undecided next action evaluated =>
      rw [content_of_next positive next, Story.tell_cons, action]
      simp only [verdict_of_evaluate evaluated (by simpa using heeded)]
      rw [← memory_past state inline, ← (sameCourse_of_evaluate evaluated).memory]
      rfl
  | unskipped next action reported =>
      exact absurd (congrArg Except.error (report_error reported)) (heeded _)

@[simp] theorem memory_settle (state : State) (pending : Pending) (number : Nat)
    (option : ChoiceOption) :
    (settle state pending number option).memory = state.memory.take number := by
  simp [State.memory, Memory.take, Ledger.recordChoice]

theorem assignAll_memory (stage : Stage) (state : State)
    (assignments : List (String × Value)) :
    state.memory.assignAll assignments =
      ((stage.assignAll state assignments).1.memory, (stage.assignAll state assignments).2) := by
  induction assignments generalizing state with
  | nil => rfl
  | cons assignment rest inductionHypothesis =>
      obtain ⟨name, value⟩ := assignment
      rw [Memory.assignAll, assignAll]
      cases isScalar : value.scalar? with
      | some scalar =>
          simp [isScalar]
          exact inductionHypothesis (state.write name scalar)
      | none => simp [isScalar]

/-- To fulfil an option is to pursue it, with the items behind the choice as the rest. -/
theorem pursue_of_fulfil {after : State} {option : ChoiceOption} {answer : Except Fault Unit}
    (fulfilled : stage.fulfil state option = (after, answer)) :
    stage.story.pursue state.memory option (stage.story.upcoming state.cursor) =
      (after.memory, answer.map fun _ => stage.story.upcoming after.cursor) := by
  obtain ⟨bindings, assigned⟩ := stage.assignAll_bindings state option.assignments
  rw [Story.pursue, assignAll_memory stage]
  unfold fulfil at fulfilled
  rcases outcome : stage.assignAll state option.assignments with ⟨middle, fault | _⟩
  · rw [outcome, Outcome.andThen_error] at fulfilled
    cases fulfilled
    rfl
  · rw [outcome, Outcome.andThen_ok] at fulfilled
    rw [outcome] at assigned
    dsimp only at assigned
    subst assigned
    dsimp only
    cases towards : option.target with
    | none =>
        rw [towards] at fulfilled
        cases fulfilled
        rfl
    | some target =>
        rw [towards, follow] at fulfilled
        cases found : stage.story.get? target with
        | some items =>
            rw [divertTo_known (Option.isSome_of_eq_some found)] at fulfilled
            cases fulfilled
            simp only [found]
            rw [← Story.upcoming_start found]
            rfl
        | none =>
            rw [divertTo_unknown (by simp [Table.contains, found])] at fulfilled
            cases fulfilled
            simp only [found]
            rfl

@[simp] theorem resume_of_idle (idle : state.pending = none) (fuel : Nat) (answers : List Nat) :
    stage.resume fuel state answers =
      stage.story.tell stage.settings.strictTypes fuel (stage.story.content ⟨state, none⟩)
        state.memory answers := by
  rw [resume, idle]
  rfl

section fulfil

variable {after : State} {pending : Pending} {number : Nat} {option : ChoiceOption}
  (waiting : state.pending = some pending)
  (offered : pending.choice.option? number = some option)

include waiting offered

theorem resume_of_unfulfilled {fault : Fault}
    (unfulfilled : stage.fulfil (settle state pending number option) option =
      (after, .error fault)) (fuel : Nat) (answers : List Nat) :
    stage.resume fuel state (number :: answers) = ⟨[], .failed fault, after.memory⟩ := by
  have pursued := pursue_of_fulfil unfulfilled
  rw [memory_settle, settle_cursor] at pursued
  rw [resume, waiting]
  simp only [Story.answer, offered, pursued]
  rfl

theorem resume_of_fulfilled
    (fulfilled : stage.fulfil (settle state pending number option) option = (after, .ok ()))
    (fuel : Nat) (answers : List Nat) :
    stage.resume fuel state (number :: answers) = stage.resume fuel after answers := by
  have pursued := pursue_of_fulfil fulfilled
  rw [memory_settle, settle_cursor] at pursued
  have idle : after.pending = none := idle_of_fulfil fulfilled
  rw [resume, waiting, resume, idle]
  simp only [Story.answer, offered, pursued]
  rfl

end fulfil

end Stage

end StoryGraph
