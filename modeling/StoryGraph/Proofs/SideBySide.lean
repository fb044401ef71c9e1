import Mathlib.Data.List.Forall2
import StoryGraph.Proofs.Configuration
import StoryGraph.Proofs.Noticing
import StoryGraph.Proofs.Retry

/-!
Sessions over two stages side by side. A `Likeness` says what a state of one is to a state of the
other and what they have in common. If all that a call does apart from walking on keeps it
(`SideBySide`), and if each dispatch of the first walk is followed by one dispatch of the second or
by none (`Follows`), then rows of requests match.

Where both walks dispatch the same item, the dispatches match (`Aligned`). Where they do so all the
way, the sessions go in step (`InStep`), and a budget is spent by both or by neither. A walk that
passes over dispatches of the first one needs no more of the budget, but may need less.

Matching outcomes have the same answer or fault. Their states are related unless the call broke;
behind one that broke a weaker relation may be all that is left.
-/

set_option autoImplicit false

namespace StoryGraph

/-- A call that failed and was not just turned away. -/
def Outcome.broken {α : Type} : Outcome α → Bool
  | (_, .error fault) => !fault.isRejection
  | (_, .ok _) => false

/-- Two outcomes with the same answer or fault, and with states that are related in one way or,
behind a call that broke, in another. -/
structure Outcome.Matches {α : Type} (Related Broken : State → State → Prop)
    (first second : Outcome α) : Prop where
  answers : second.2 = first.2
  related : first.broken = false → Related first.1 second.1
  broken : first.broken = true → Broken first.1 second.1

/-- Two choices that look the same and whose options ask for the same, one by one. -/
structure Choice.Like (choice twin : Choice) : Prop where
  prompt : twin.prompt = choice.prompt
  labels : twin.labels = choice.labels
  options : ∀ {place : Nat} {option : ChoiceOption}, choice.options[place]? = some option →
    ∃ twinOption : ChoiceOption, twin.options[place]? = some twinOption ∧
      twinOption.target = option.target ∧ twinOption.assignments = option.assignments

/-- Two actions that are the same but for how choices and the bodies of conditions are written. -/
def Action.Like (respell : Item → Item) : Action → Action → Prop
  | .ask choice, twin => ∃ twinChoice, twin = .ask twinChoice ∧ choice.Like twinChoice
  | .decide test body, twin => twin = .decide test (body.map respell)
  | action, twin => twin = action

/-- What sessions over two stages have in common. -/
structure Likeness where
  /-- What a state of the second session is to one of the first. -/
  Related : State → State → Prop
  /-- What is left of that behind a call that broke. -/
  Broken : State → State → Prop := Related
  /-- The variables that both read the same. -/
  Reads : String → Prop := fun _ => True
  /-- The names that are knots of both stories or of neither. -/
  Knows : String → Prop := fun _ => True
  /-- The notices that make no difference between them. -/
  Tells : Notice → Notice → Prop := fun _ _ => True
  /-- How the second story writes an item of the first. -/
  respell : Item → Item := id

namespace Likeness

/-- A likeness that is kept by all that a call does apart from walking on. -/
structure SideBySide (like : Likeness) (stage other : Stage) : Prop where
  settings : other.settings = stage.settings
  respelled : ∀ item : Item, item.action.Like like.respell (like.respell item).action
  told : ∀ notice, like.Tells notice notice
  knows : ∀ {name}, like.Knows name → other.story.contains name = stage.story.contains name
  weaken : ∀ {state twin}, like.Related state twin → like.Broken state twin
  read : ∀ {state twin name}, like.Related state twin → like.Reads name →
    twin.read name = state.read name
  report : ∀ {state twin notice twinNotice}, like.Related state twin →
    like.Tells notice twinNotice → Outcome.Matches like.Related like.Broken
      (stage.report state notice) (other.report twin twinNotice)
  write : ∀ {state twin} name value, like.Related state twin →
    like.Related (state.write name value) (twin.write name value)
  enter : ∀ {state twin target}, like.Related state twin → state.pending = none →
    like.Knows target → stage.story.contains target = true →
      like.Related (state.enter target) (twin.enter target)
  idle : ∀ {state twin : State}, like.Related state twin → state.pending = none →
    twin.pending = none
  /-- The same choice waits, and its answers lead to related states. -/
  waiting : ∀ {state twin pending}, like.Related state twin → state.pending = some pending →
    ∃ twinPending, twin.pending = some twinPending ∧ pending.choice.Like twinPending.choice ∧
      twinPending.knot = pending.knot ∧ ∀ {index number option twinOption},
        Stage.picked? pending.choice index = some (number, option) →
        Stage.picked? twinPending.choice index = some (number, twinOption) →
          like.Related (Stage.settle state pending number option)
            (Stage.settle twin twinPending number twinOption) ∧
          ∀ target, option.target = some target → like.Knows target

/-- Moments at which two walks dispatch the same item, with related states behind it. -/
structure Aligned (like : Likeness) (stage other : Stage) (moment twin : Moment) : Prop where
  idle : moment.state.pending = none
  next : other.next? twin.state twin.inline =
    (stage.next? moment.state moment.inline).map like.respell
  stuck : like.Broken moment.state twin.state
  ended : stage.next? moment.state moment.inline = none → like.Related moment.state twin.state
  past : ∀ {item}, stage.next? moment.state moment.inline = some item →
    like.Related (Stage.past moment.state moment.inline) (Stage.past twin.state twin.inline)
  asks : ∀ {item choice twinChoice}, stage.next? moment.state moment.inline = some item →
    item.action = .ask choice → (like.respell item).action = .ask twinChoice →
      like.Related (Stage.present moment.state moment.inline choice)
        (Stage.present twin.state twin.inline twinChoice)
  goesTo : ∀ {item target}, stage.next? moment.state moment.inline = some item →
    item.action = .goTo target → like.Knows target
  decides : ∀ {item test body}, stage.next? moment.state moment.inline = some item →
    item.action = .decide test body → like.Reads test.name
  /-- A notice that could be refused is told in related states. -/
  skips : ∀ {item kind}, stage.next? moment.state moment.inline = some item →
    item.action = .skip kind →
      like.Tells (.unrecognizedItem kind moment.state.cursor)
        (.unrecognizedItem kind twin.state.cursor) ∧
      (stage.Unopposed ∨ like.Related moment.state twin.state)

/-- Moments at the same point of two walks. -/
structure Abreast (like : Likeness) (moment twin : Moment) : Prop where
  idle : moment.state.pending = none
  related : like.Related moment.state twin.state
  inline : twin.inline = moment.inline.map like.respell

/-- How walks over one stage follow those over another, as long as the first dispatches at fine
moments only: the walks go through parallel moments, and a dispatch that leads on is followed by
one dispatch or by none. -/
structure Follows (like : Likeness) (stage other : Stage) (Fine : Moment → Prop)
    (Parallel : Moment → Moment → Prop) : Prop extends like.SideBySide stage other where
  outset : ∀ {state twin}, like.Related state twin → state.pending = none →
    Parallel ⟨state, none⟩ ⟨twin, none⟩
  moves : ∀ {moment next twin}, Parallel moment twin → Fine moment → stage.Moves moment next →
    Parallel next twin ∨ ∃ twinNext, other.Moves twin twinNext ∧ Parallel next twinNext
  halts : ∀ {moment outcome twin}, Parallel moment twin → Fine moment →
    stage.Halts moment outcome →
      ∃ twinOutcome, other.Halts twin twinOutcome ∧
        Outcome.Matches like.Related like.Broken outcome twinOutcome

/-- Walks of which the second dispatches whenever the first does, so that both are at the same
cursor when a budget is spent. -/
structure KeepsPace (like : Likeness) (stage other : Stage) (Fine : Moment → Prop)
    (Parallel : Moment → Moment → Prop) : Prop where
  moves : ∀ {moment next twin}, Parallel moment twin → Fine moment → stage.Moves moment next →
    ∃ twinNext, other.Moves twin twinNext ∧ Parallel next twinNext
  spent : ∀ {moment twin}, Parallel moment twin →
    like.Related moment.state twin.state ∧ twin.state.cursor = moment.state.cursor

/-- Sessions that stand at one cursor with the same items there, so that their walks are aligned
wherever they are abreast. -/
structure InStep (like : Likeness) (stage other : Stage) (Fine : Moment → Prop) : Prop
    extends like.SideBySide stage other where
  cursor : ∀ {state twin}, like.Related state twin → twin.cursor = state.cursor
  here : ∀ {state twin}, like.Related state twin →
    other.story.itemAt? state.cursor.knot state.cursor.position =
      (stage.story.itemAt? state.cursor.knot state.cursor.position).map like.respell
  past : ∀ {state twin inline item}, like.Related state twin → Fine ⟨state, inline⟩ →
    stage.next? state inline = some item →
      like.Related (Stage.past state inline) (Stage.past twin (inline.map like.respell))
  asks : ∀ {state twin inline item choice twinChoice}, like.Related state twin →
    Fine ⟨state, inline⟩ → stage.next? state inline = some item → item.action = .ask choice →
    (like.respell item).action = .ask twinChoice →
      like.Related (Stage.present state inline choice)
        (Stage.present twin (inline.map like.respell) twinChoice)
  goesTo : ∀ {state twin inline item target}, like.Related state twin → Fine ⟨state, inline⟩ →
    stage.next? state inline = some item → item.action = .goTo target → like.Knows target
  decides : ∀ {state twin inline item test body}, like.Related state twin →
    Fine ⟨state, inline⟩ → stage.next? state inline = some item →
    item.action = .decide test body → like.Reads test.name

/-- A request that asks for nothing but what the sessions have in common. -/
def Shares (like : Likeness) (stage other : Stage) : Request → Prop
  | .call (.cue _) => True
  | .call (.assign _ _) => True
  | .call (.evaluate test) => like.Reads test.name
  | .read name => like.Reads name
  | .visits knot => ∀ state twin, like.Related state twin →
      twin.ledger.visitCount knot = state.ledger.visitCount knot
  | .ended => ∀ state twin, like.Related state twin →
      other.hasEnded twin = stage.hasEnded state

end Likeness

namespace Outcome.Matches

variable {α β : Type} {Related Broken : State → State → Prop} {first second : Outcome α}

theorem of_related (related : Related first.1 second.1)
    (weaken : Related first.1 second.1 → Broken first.1 second.1)
    (answers : second.2 = first.2) : Matches Related Broken first second :=
  ⟨answers, fun _ => related, fun _ => weaken related⟩

theorem andThen (matched : Matches Related Broken first second)
    {next twin : State → α → Outcome β}
    (goOn : ∀ answer, first.2 = .ok answer → Related first.1 second.1 →
      Matches Related Broken (next first.1 answer) (twin second.1 answer)) :
    Matches Related Broken (first.andThen next) (second.andThen twin) := by
  obtain ⟨state, answer⟩ := first
  obtain ⟨other, otherAnswer⟩ := second
  obtain ⟨same, related, broken⟩ := matched
  cases same
  cases answer with
  | ok answer => exact goOn answer rfl (related rfl)
  | error fault => exact ⟨rfl, related, broken⟩

theorem map (matched : Matches Related Broken first second) (change : α → β) :
    Matches Related Broken (first.1, first.2.map change) (second.1, second.2.map change) := by
  obtain ⟨state, answer⟩ := first
  obtain ⟨same, related, broken⟩ := matched
  refine ⟨congrArg (Except.map change) same, ?_, ?_⟩
  · cases answer <;> exact related
  · cases answer <;> exact broken

/-- Where nothing is lost by a call that breaks, outcomes that match are alike. -/
theorem alike (matched : Matches Related Related first second) :
    Alike Related first second where
  states := by
    cases broke : first.broken with
    | false => exact matched.related broke
    | true => exact matched.broken broke
  answers := matched.answers

end Outcome.Matches

namespace State.SameCourse

variable {first second third : State}

theorem symm (same : first.SameCourse second) : second.SameCourse first :=
  ⟨same.cursor.symm, same.bindings.symm, same.ledger.symm, same.pending.symm⟩

theorem trans (same : first.SameCourse second) (later : second.SameCourse third) :
    first.SameCourse third where
  cursor := later.cursor.trans same.cursor
  bindings := later.bindings.trans same.bindings
  ledger := later.ledger.trans same.ledger
  pending := later.pending.trans same.pending

theorem write (same : first.SameCourse second) (name : String) (value : Scalar) :
    (first.write name value).SameCourse (second.write name value) where
  cursor := same.cursor
  bindings := by simp only [State.write, same.bindings]
  ledger := same.ledger
  pending := same.pending

theorem enter (same : first.SameCourse second) (target : String) :
    (first.enter target).SameCourse (second.enter target) where
  cursor := rfl
  bindings := same.bindings
  ledger := by simp only [State.enter, writeLog, same.ledger]
  pending := same.pending

theorem past (same : first.SameCourse second) (inline : Option Item) :
    (Stage.past first inline).SameCourse (Stage.past second inline) := by
  cases inline with
  | none => exact ⟨Stage.cursor_past_congr same.cursor, same.bindings, same.ledger, same.pending⟩
  | some _ => exact same

theorem present (same : first.SameCourse second) (inline : Option Item) (choice : Choice) :
    (Stage.present first inline choice).SameCourse (Stage.present second inline choice) where
  cursor := same.cursor
  bindings := same.bindings
  ledger := same.ledger
  pending := by simp only [Stage.present, same.cursor]

theorem settle (same : first.SameCourse second) (pending : Pending) (number : Nat)
    (option : ChoiceOption) :
    (Stage.settle first pending number option).SameCourse
      (Stage.settle second pending number option) where
  cursor := by simp [same.cursor]
  bindings := by simp [same.bindings]
  ledger := by simp [same.ledger]
  pending := by simp

end State.SameCourse

namespace Stage

theorem Unopposed.report_eq {stage : Stage} (unopposed : stage.Unopposed) (state : State)
    (notice : Notice) :
    ∃ after, state.SameCourse after ∧ stage.report state notice = (after, .ok ()) :=
  ⟨_, stage.report_sameCourse state notice, Prod.ext rfl (unopposed.report state notice)⟩

/-- Notices that nobody refuses match, whatever they are. -/
theorem Unopposed.report_matches {stage other : Stage} {Related Broken : State → State → Prop}
    {state twin : State} (unopposed : stage.Unopposed) (unopposedToo : other.Unopposed)
    (course : ∀ {after twinAfter}, state.SameCourse after → twin.SameCourse twinAfter →
      Related after twinAfter) (notice twinNotice : Notice) :
    Outcome.Matches Related Broken (stage.report state notice) (other.report twin twinNotice) := by
  obtain ⟨after, same, reported⟩ := unopposed.report_eq state notice
  obtain ⟨twinAfter, twinSame, twinReported⟩ := unopposedToo.report_eq twin twinNotice
  rw [reported, twinReported]
  exact ⟨rfl, fun _ => course same twinSame, nofun⟩

@[simp] theorem report_past (stage : Stage) (state : State) (inline : Option Item)
    (notice : Notice) :
    stage.report (past state inline) notice =
      (past (stage.report state notice).1 inline, (stage.report state notice).2) := by
  cases inline with
  | some _ => rfl
  | none =>
      unfold report
      cases stage.listener with
      | none => rfl
      | some listener =>
          dsimp only [past, State.moveOn, State.moveTo, State.writeLog]
          split <;> rfl

@[simp] theorem enter_past (state : State) (inline : Option Item) (target : String) :
    (past state inline).enter target = state.enter target := by
  cases inline <;> rfl

@[simp] theorem write_past (state : State) (inline : Option Item) (name : String) (value : Scalar) :
    (past state inline).write name value = past (state.write name value) inline := by
  cases inline <;> rfl

end Stage

namespace Choice.Like

variable {choice twin : Choice} {index : Value} {number : Nat} {option : ChoiceOption}

@[refl] theorem refl (choice : Choice) : choice.Like choice :=
  ⟨rfl, rfl, fun present => ⟨_, present, rfl, rfl⟩⟩

theorem ofChoice_eq (like : choice.Like twin) : Event.ofChoice twin = .ofChoice choice := by
  simp only [Event.ofChoice, like.prompt, like.labels]

theorem length_eq (like : choice.Like twin) : twin.options.length = choice.options.length := by
  have lengths := congrArg List.length like.labels
  simpa only [Choice.labels, List.length_map] using lengths

theorem picked? (like : choice.Like twin)
    (picked : Stage.picked? choice index = some (number, option)) :
    ∃ twinOption, Stage.picked? twin index = some (number, twinOption) ∧
      twinOption.target = option.target ∧ twinOption.assignments = option.assignments := by
  obtain ⟨isNumber, positive, present⟩ := Stage.picked?_eq_some.mp picked
  obtain ⟨twinOption, presentToo, asksSame⟩ := like.options present
  exact ⟨twinOption, Stage.picked?_eq_some.mpr ⟨isNumber, positive, presentToo⟩, asksSame⟩

theorem unpicked (like : choice.Like twin) (unpicked : Stage.picked? choice index = none) :
    Stage.picked? twin index = none := by
  by_contra pickedToo
  obtain ⟨⟨number, twinOption⟩, pickedToo⟩ := Option.ne_none_iff_exists'.mp pickedToo
  obtain ⟨isNumber, positive, presentToo⟩ := Stage.picked?_eq_some.mp pickedToo
  have inside := (List.getElem?_eq_some_iff.mp presentToo).1
  rw [like.length_eq] at inside
  have picked := Stage.picked?_eq_some.mpr
    ⟨isNumber, positive, List.getElem?_eq_getElem inside⟩
  rw [unpicked] at picked
  cases picked

end Choice.Like

theorem Action.Like.refl (action : Action) : action.Like id action := by
  cases action with
  | ask choice => exact ⟨choice, rfl, .refl choice⟩
  | decide test body => simp [Like]
  | say | goTo | assign | skip => rfl

namespace Likeness

variable {like : Likeness} {stage other : Stage} {state twin : State}

namespace SideBySide

variable (pair : like.SideBySide stage other)

include pair

theorem matches_of_related {α : Type} {first second : Outcome α}
    (related : like.Related first.1 second.1) (answers : second.2 = first.2) :
    Outcome.Matches like.Related like.Broken first second :=
  .of_related related pair.weaken answers

section calls

variable (related : like.Related state twin)

include related

theorem assign_matches (name : String) (value : Value) :
    Outcome.Matches like.Related like.Broken (stage.assign state name value)
      (other.assign twin name value) := by
  cases isScalar : value.scalar? with
  | some scalar =>
      rw [Stage.assign_scalar isScalar, Stage.assign_scalar isScalar]
      exact pair.matches_of_related (pair.write name scalar related) rfl
  | none =>
      rw [Stage.assign_nonScalar isScalar, Stage.assign_nonScalar isScalar]
      exact pair.matches_of_related related rfl

omit related in
theorem assignAll_matches (related : like.Related state twin)
    (assignments : List (String × Value)) :
    Outcome.Matches like.Related like.Broken (stage.assignAll state assignments)
      (other.assignAll twin assignments) := by
  induction assignments generalizing state twin with
  | nil => exact pair.matches_of_related related rfl
  | cons assignment rest inductionHypothesis =>
      apply (pair.assign_matches related assignment.1 assignment.2).andThen
      intro _ _ related
      exact inductionHypothesis related

theorem divertTo_matches (idle : state.pending = none) {target : String}
    (knows : like.Knows target) :
    Outcome.Matches like.Related like.Broken (stage.divertTo state target)
      (other.divertTo twin target) := by
  have knots := pair.knows knows
  cases known : stage.story.contains target with
  | true =>
      rw [Stage.divertTo_known known, Stage.divertTo_known (knots.trans known)]
      exact pair.matches_of_related (pair.enter related idle knows known) rfl
  | false =>
      rw [Stage.divertTo_unknown known, Stage.divertTo_unknown (knots.trans known)]
      exact pair.matches_of_related related rfl

theorem fulfil_matches (idle : state.pending = none) {option twinOption : ChoiceOption}
    (sameTarget : twinOption.target = option.target)
    (sameAssignments : twinOption.assignments = option.assignments)
    (knows : ∀ target, option.target = some target → like.Knows target) :
    Outcome.Matches like.Related like.Broken (stage.fulfil state option)
      (other.fulfil twin twinOption) := by
  unfold Stage.fulfil
  rw [sameTarget, sameAssignments]
  apply (pair.assignAll_matches related option.assignments).andThen
  intro _ _ related
  obtain ⟨bindings, assigned⟩ := stage.assignAll_bindings state option.assignments
  cases towards : option.target with
  | none => exact pair.matches_of_related related rfl
  | some target =>
      refine pair.divertTo_matches related ?_ (knows target towards)
      rw [assigned]
      exact idle

theorem evaluate_matches {test : Test} (reads : like.Reads test.name) :
    Outcome.Matches like.Related like.Broken (stage.evaluate state test)
      (other.evaluate twin test) := by
  rw [Stage.evaluate_eq, Stage.evaluate_eq, pair.read related reads, pair.settings]
  cases test.notice? stage.settings.strictTypes (state.read test.name) with
  | none => exact pair.matches_of_related related rfl
  | some notice =>
      apply (pair.report related (pair.told notice)).andThen
      intro _ _ related
      exact pair.matches_of_related related rfl

theorem play_matches (cue : Cue)
    (walks : ∀ outset twinOutset, stage.Outset state cue outset →
      like.Related outset twinOutset → Outcome.Matches like.Related like.Broken
        (stage.walkOn outset) (other.walkOn twinOutset)) :
    Outcome.Matches like.Related like.Broken (stage.play state cue) (other.play twin cue) := by
  cases waiting : state.pending with
  | none =>
      have waitingToo := pair.idle related waiting
      cases cue with
      | advance =>
          rw [Stage.play, Stage.play, Stage.advance_of_idle waiting,
            Stage.advance_of_idle waitingToo]
          exact walks _ _ (.onward waiting) related
      | commit index =>
          simp only [Stage.play, Stage.commit, waiting, waitingToo]
          exact pair.matches_of_related related rfl
  | some pending =>
      obtain ⟨twinPending, waitingToo, same, sameKnot, settles⟩ := pair.waiting related waiting
      cases cue with
      | advance =>
          rw [Stage.play, Stage.play, Stage.advance_of_waiting waiting,
            Stage.advance_of_waiting waitingToo, same.ofChoice_eq]
          exact pair.matches_of_related related rfl
      | commit index =>
          cases picked : Stage.picked? pending.choice index with
          | none =>
              simp only [Stage.play, Stage.commit, waiting, waitingToo, picked,
                same.unpicked picked, Stage.refusal, same.length_eq, sameKnot]
              exact pair.matches_of_related related rfl
          | some pick =>
              obtain ⟨number, option⟩ := pick
              obtain ⟨twinOption, pickedToo, sameTarget, sameAssignments⟩ := same.picked? picked
              obtain ⟨settled, knows⟩ := settles picked pickedToo
              rw [Stage.play, Stage.play, Stage.commit_of_picked waiting picked,
                Stage.commit_of_picked waitingToo pickedToo]
              apply (pair.fulfil_matches settled (Stage.settle_pending ..) sameTarget
                sameAssignments knows).andThen
              intro _ fulfilled related
              exact walks _ _ (.answered waiting picked (Prod.ext rfl fulfilled)) related

theorem respond_matches {request : Request} (shared : like.Shares stage other request)
    (walks : ∀ cue outset twinOutset, request = .call (.cue cue) → stage.Outset state cue outset →
      like.Related outset twinOutset → Outcome.Matches like.Related like.Broken
        (stage.walkOn outset) (other.walkOn twinOutset)) :
    Outcome.Matches like.Related like.Broken (stage.respond state request)
      (other.respond twin request) := by
  cases request with
  | call call =>
      cases call with
      | cue cue =>
          apply (pair.play_matches related cue _).map
          exact fun outset twinOutset => walks cue outset twinOutset rfl
      | assign name value => exact (pair.assign_matches related name value).map _
      | evaluate test => exact (pair.evaluate_matches related shared).map _
  | read name =>
      refine pair.matches_of_related related ?_
      simp only [Stage.respond, pair.read related shared]
  | visits knot =>
      refine pair.matches_of_related related ?_
      simp only [Stage.respond, shared state twin related]
  | ended =>
      refine pair.matches_of_related related ?_
      simp only [Stage.respond, shared state twin related]

end calls

end SideBySide

section dispatch

variable {moment twin : Moment} (aligned : like.Aligned stage other moment twin)
  (pair : like.SideBySide stage other)

include aligned pair

theorem Aligned.item {item : Item} {action : Action}
    (next : stage.next? moment.state moment.inline = some item) (acts : item.action = action) :
    other.next? twin.state twin.inline = some (like.respell item) ∧
      action.Like like.respell (like.respell item).action := by
  subst acts
  refine ⟨?_, pair.respelled item⟩
  rw [aligned.next, next, Option.map_some]

theorem Aligned.evaluate {item : Item} {test : Test} {body : Option Item}
    (next : stage.next? moment.state moment.inline = some item)
    (action : item.action = .decide test body) :
    Outcome.Matches like.Related like.Broken
      (stage.evaluate (Stage.past moment.state moment.inline) test)
      (other.evaluate (Stage.past twin.state twin.inline) test) :=
  pair.evaluate_matches (aligned.past next) (aligned.decides next action)

/-- A dispatch that leads on is matched by one that leads on. -/
theorem Aligned.moves {next : Moment} (moves : stage.Moves moment next) :
    ∃ twinNext, other.Moves twin twinNext ∧ like.Related next.state twinNext.state ∧
      twinNext.inline = next.inline.map like.respell := by
  cases moves.rules with
  | @goTo item target next action known =>
      obtain ⟨twinNext, spelled⟩ := aligned.item pair next action
      have knows := aligned.goesTo next action
      have entered := pair.enter (aligned.past next)
        ((Stage.pending_past _ _).trans aligned.idle) knows known
      rw [Stage.enter_past, Stage.enter_past] at entered
      have knownToo := (pair.knows knows).trans known
      exact ⟨_, Stage.moves_of_rules (.goTo twinNext spelled knownToo), entered, rfl⟩
  | @assign item name value scalar next action isScalar =>
      obtain ⟨twinNext, spelled⟩ := aligned.item pair next action
      have written := pair.write name scalar (aligned.past next)
      rw [Stage.write_past, Stage.write_past] at written
      exact ⟨_, Stage.moves_of_rules (.assign twinNext spelled isScalar), written, rfl⟩
  | @decide item test body after holds next action evaluated =>
      obtain ⟨twinNext, spelled⟩ := aligned.item pair next action
      have matched := aligned.evaluate pair next action
      rcases evaluatedToo : other.evaluate (Stage.past twin.state twin.inline) test with
        ⟨twinAfter, answer⟩
      rw [evaluated, evaluatedToo] at matched
      cases matched.answers
      refine ⟨_, Stage.moves_of_rules (.decide twinNext spelled evaluatedToo),
        matched.related rfl, ?_⟩
      cases holds <;> rfl
  | @skip item kind after next action reported =>
      obtain ⟨twinNext, spelled⟩ := aligned.item pair next action
      have matched := pair.report (aligned.past next) (aligned.skips next action).1
      rcases reportedToo : other.report twin.state (.unrecognizedItem kind twin.state.cursor) with
        ⟨twinAfter, answer⟩
      rw [Stage.report_past, Stage.report_past, reported, reportedToo] at matched
      cases matched.answers
      exact ⟨_, Stage.moves_of_rules (.skip twinNext spelled reportedToo), matched.related rfl,
        rfl⟩

/-- Where items are written the same, both lead on to the same inline item. -/
theorem Aligned.moves_same (plain : like.respell = id) {next : Moment}
    (moves : stage.Moves moment next) :
    ∃ twinAfter, other.Moves twin ⟨twinAfter, next.inline⟩ ∧
      like.Related next.state twinAfter := by
  obtain ⟨⟨twinAfter, _⟩, twinMoves, related, rfl⟩ := aligned.moves pair moves
  rw [plain, Option.map_id_apply] at twinMoves
  exact ⟨twinAfter, twinMoves, related⟩

/-- A dispatch that ends its walk is matched by one that ends its walk. -/
theorem Aligned.halts {outcome : Outcome Event} (halts : stage.Halts moment outcome) :
    ∃ twinOutcome, other.Halts twin twinOutcome ∧
      Outcome.Matches like.Related like.Broken outcome twinOutcome := by
  cases halts.rules with
  | theEnd nothing =>
      have nothingToo : other.next? twin.state twin.inline = none := by
        rw [aligned.next, nothing, Option.map_none]
      exact ⟨_, Stage.halts_of_rules (.theEnd nothingToo),
        pair.matches_of_related (aligned.ended nothing) rfl⟩
  | say next action =>
      obtain ⟨twinNext, spelled⟩ := aligned.item pair next action
      exact ⟨_, Stage.halts_of_rules (.say twinNext spelled),
        pair.matches_of_related (aligned.past next) rfl⟩
  | ask next action =>
      obtain ⟨twinNext, spelled⟩ := aligned.item pair next action
      obtain ⟨twinChoice, spelled, same⟩ := spelled
      refine ⟨_, Stage.halts_of_rules (.ask twinNext spelled),
        pair.matches_of_related (aligned.asks next action spelled) ?_⟩
      rw [same.ofChoice_eq]
  | astray next action unknown =>
      obtain ⟨twinNext, spelled⟩ := aligned.item pair next action
      have unknownToo := (pair.knows (aligned.goesTo next action)).trans unknown
      exact ⟨_, Stage.halts_of_rules (.astray twinNext spelled unknownToo), rfl, nofun,
        fun _ => aligned.stuck⟩
  | unassignable next action nonScalar =>
      obtain ⟨twinNext, spelled⟩ := aligned.item pair next action
      exact ⟨_, Stage.halts_of_rules (.unassignable twinNext spelled nonScalar), rfl, nofun,
        fun _ => aligned.stuck⟩
  | @undecided item test body after fault next action evaluated =>
      obtain ⟨twinNext, spelled⟩ := aligned.item pair next action
      have matched := aligned.evaluate pair next action
      rcases evaluatedToo : other.evaluate (Stage.past twin.state twin.inline) test with
        ⟨twinAfter, answer⟩
      rw [evaluated, evaluatedToo] at matched
      cases matched.answers
      exact ⟨_, Stage.halts_of_rules (.undecided twinNext spelled evaluatedToo), rfl,
        matched.related, matched.broken⟩
  | @unskipped item kind after fault next action reported =>
      obtain ⟨twinNext, spelled⟩ := aligned.item pair next action
      obtain ⟨tells, unopposed | related⟩ := aligned.skips next action
      · have heeded := unopposed.report moment.state (.unrecognizedItem kind moment.state.cursor)
        rw [reported] at heeded
        cases heeded
      · have matched := pair.report related tells
        rcases reportedToo : other.report twin.state
          (.unrecognizedItem kind twin.state.cursor) with ⟨twinAfter, answer⟩
        rw [reported, reportedToo] at matched
        cases matched.answers
        exact ⟨_, Stage.halts_of_rules (.unskipped twinNext spelled reportedToo), rfl,
          matched.related, matched.broken⟩

end dispatch

theorem KeepsPace.goes {Fine : Moment → Prop} {Parallel : Moment → Moment → Prop}
    (pace : like.KeepsPace stage other Fine Parallel) {count : Nat} {moment last twin : Moment}
    (goes : stage.Goes count moment last) (parallel : Parallel moment twin)
    (fine : ∀ gone middle, gone < count → stage.Goes gone moment middle → Fine middle) :
    ∃ twinLast, other.Goes count twin twinLast ∧ Parallel last twinLast := by
  induction goes generalizing twin with
  | start => exact ⟨twin, .start, parallel⟩
  | next moves _ inductionHypothesis =>
      obtain ⟨twinNext, twinMoves, onward⟩ :=
        pace.moves parallel (fine 0 _ (Nat.succ_pos _) .start) moves
      obtain ⟨twinLast, twinGoes, parallelLast⟩ := inductionHypothesis onward
        fun gone middle early goes =>
          fine (gone + 1) middle (Nat.succ_lt_succ early) (.next moves goes)
      exact ⟨twinLast, .next twinMoves twinGoes, parallelLast⟩

namespace Follows

variable {Fine : Moment → Prop} {Parallel : Moment → Moment → Prop}
  (follows : like.Follows stage other Fine Parallel)

include follows

theorem ends {count : Nat} {moment twin : Moment} {outcome : Outcome Event}
    (ends : stage.Ends count moment outcome) (parallel : Parallel moment twin)
    (fine : ∀ gone middle, gone < count → stage.Goes gone moment middle → Fine middle) :
    ∃ twinCount twinOutcome, twinCount ≤ count ∧ other.Ends twinCount twin twinOutcome ∧
      Outcome.Matches like.Related like.Broken outcome twinOutcome := by
  induction ends generalizing twin with
  | here halts =>
      have fineHere := fine 0 _ Nat.zero_lt_one .start
      obtain ⟨twinOutcome, twinHalts, matched⟩ := follows.halts parallel fineHere halts
      exact ⟨1, twinOutcome, Nat.le_refl 1, .here twinHalts, matched⟩
  | later moves _ inductionHypothesis =>
      have fineHere := fine 0 _ (Nat.succ_pos _) .start
      have fineLater := fun gone middle early goes =>
        fine (gone + 1) middle (Nat.succ_lt_succ early) (.next moves goes)
      rcases follows.moves parallel fineHere moves with stays | ⟨twinNext, twinMoves, onward⟩
      · obtain ⟨twinCount, twinOutcome, sooner, twinEnds, matched⟩ :=
          inductionHypothesis stays fineLater
        exact ⟨twinCount, twinOutcome, Nat.le_succ_of_le sooner, twinEnds, matched⟩
      · obtain ⟨twinCount, twinOutcome, sooner, twinEnds, matched⟩ :=
          inductionHypothesis onward fineLater
        exact ⟨twinCount + 1, twinOutcome, Nat.succ_le_succ sooner, .later twinMoves twinEnds,
          matched⟩

/-- A walk that does not run out of its budget is followed by one that does not either. One that
does is followed by one that does too if the walks keep pace. -/
theorem walkOn_matches (related : like.Related state twin) (idle : state.pending = none)
    (fine : ∀ count moment, count < stage.settings.maxSteps →
      stage.Goes count ⟨state, none⟩ moment → Fine moment)
    (inTime : like.KeepsPace stage other Fine Parallel ∨
      ∀ fault, (stage.walkOn state).2 = .error fault → fault.isLoop = false) :
    Outcome.Matches like.Related like.Broken (stage.walkOn state) (other.walkOn twin) := by
  have parallel := follows.outset related idle
  have rules := stage.walkOn_rules state
  generalize stage.walkOn state = outcome at rules inTime
  cases rules with
  | ended enough goes halts =>
      obtain ⟨twinCount, twinOutcome, sooner, twinEnds, matched⟩ :=
        follows.ends (goes.ends halts) parallel
          fun gone middle early => fine gone middle (Nat.lt_of_lt_of_le early enough)
      have enoughToo : twinCount ≤ other.settings.maxSteps := by
        rw [follows.settings]
        exact Nat.le_trans sooner enough
      have walked : other.walkOn twin = twinOutcome := Stage.walk_of_ends twinEnds enoughToo
      rw [walked]
      exact matched
  | spent goes =>
      rcases inTime with pace | inTime
      · obtain ⟨twinLast, twinGoes, parallelLast⟩ := pace.goes goes parallel fine
        rw [← follows.settings] at twinGoes
        have walked : other.walkOn twin = _ := Stage.walk_of_goes twinGoes
        obtain ⟨relatedLast, sameCursor⟩ := pace.spent parallelLast
        rw [walked]
        refine follows.matches_of_related relatedLast ?_
        rw [sameCursor, follows.settings]
      · cases inTime _ rfl

/-- Take a row of requests of which none runs out of its budget, unless the walks keep pace, and of
which none but the last breaks unless nothing is lost by that. Its responses match over both
stages. -/
theorem responses_match {requests : List Request} (related : like.Related state twin)
    (shared : ∀ request ∈ requests, like.Shares stage other request)
    (fine : ∀ moment, stage.DispatchesIn state requests moment → Fine moment)
    (inTime : ∀ outcome ∈ stage.responses state requests,
      like.KeepsPace stage other Fine Parallel ∨
        ∀ fault, outcome.2 = .error fault → fault.isLoop = false)
    (mended : ∀ outcome ∈ (stage.responses state requests).dropLast, outcome.broken = true →
      ∀ {state twin}, like.Broken state twin → like.Related state twin) :
    List.Forall₂ (Outcome.Matches like.Related like.Broken) (stage.responses state requests)
      (other.responses twin requests) := by
  induction requests generalizing state twin with
  | nil => exact .nil
  | cons request rest inductionHypothesis =>
      rw [Stage.responses] at inTime mended
      obtain ⟨inTimeFirst, inTimeLater⟩ := List.forall_mem_cons.mp inTime
      obtain ⟨sharedFirst, sharedLater⟩ := List.forall_mem_cons.mp shared
      have first : Outcome.Matches like.Related like.Broken (stage.respond state request)
          (other.respond twin request) := by
        apply follows.respond_matches related sharedFirst
        rintro cue outset twinOutset rfl walks relatedOutset
        apply follows.walkOn_matches relatedOutset walks.idle
        · exact fun count moment early goes => fine moment (.now walks early goes)
        · apply inTimeFirst.imp_right
          intro inTime fault failed
          apply inTime
          simp only [Stage.respond, walks.play, failed]
          rfl
      cases rest with
      | nil => exact .cons first .nil
      | cons second others =>
          rw [Stage.responses, List.dropLast_cons_cons] at mended
          obtain ⟨mendedFirst, mendedLater⟩ := List.forall_mem_cons.mp mended
          have relatedNext : like.Related (stage.respond state request).1
              (other.respond twin request).1 := by
            cases broke : (stage.respond state request).broken with
            | false => exact first.related broke
            | true => exact mendedFirst broke (first.broken broke)
          refine .cons first (inductionHypothesis relatedNext sharedLater ?_ inTimeLater
            mendedLater)
          exact fun moment dispatches => fine moment (.later dispatches)

end Follows

namespace InStep

variable {Fine : Moment → Prop} (inStep : like.InStep stage other Fine)

include inStep

theorem aligned {moment twin : Moment} (abreast : like.Abreast moment twin)
    (fine : Fine moment) : like.Aligned stage other moment twin := by
  obtain ⟨state, inline⟩ := moment
  obtain ⟨twin, _⟩ := twin
  obtain ⟨idle, related, rfl⟩ := abreast
  have sameCursor : twin.cursor = state.cursor := inStep.cursor related
  exact {
    idle
    next := by
      cases inline with
      | some item => rfl
      | none =>
          simp only [Option.map_none, Stage.next?_bare, sameCursor]
          exact inStep.here related
    stuck := inStep.weaken related
    ended := fun _ => related
    past := inStep.past related fine
    asks := inStep.asks related fine
    goesTo := inStep.goesTo related fine
    decides := inStep.decides related fine
    skips := by
      intro item kind _ _
      refine ⟨?_, .inr related⟩
      dsimp only
      rw [sameCursor]
      exact inStep.told _ }

theorem moves {moment next twin : Moment} (abreast : like.Abreast moment twin)
    (fine : Fine moment) (moves : stage.Moves moment next) :
    ∃ twinNext, other.Moves twin twinNext ∧ like.Abreast next twinNext := by
  obtain ⟨twinNext, twinMoves, related, sameInline⟩ :=
    (inStep.aligned abreast fine).moves inStep.toSideBySide moves
  exact ⟨twinNext, twinMoves, moves.pending.trans abreast.idle, related, sameInline⟩

theorem halts {moment twin : Moment} (abreast : like.Abreast moment twin) (fine : Fine moment)
    {outcome : Outcome Event} (halts : stage.Halts moment outcome) :
    ∃ twinOutcome, other.Halts twin twinOutcome ∧
      Outcome.Matches like.Related like.Broken outcome twinOutcome :=
  (inStep.aligned abreast fine).halts inStep.toSideBySide halts

theorem follows : like.Follows stage other Fine like.Abreast where
  toSideBySide := inStep.toSideBySide
  outset := fun related idle => ⟨idle, related, rfl⟩
  moves := fun abreast fine moves => .inr (inStep.moves abreast fine moves)
  halts := fun abreast fine halts => inStep.halts abreast fine halts

theorem keepsPace : like.KeepsPace stage other Fine like.Abreast where
  moves := inStep.moves
  spent := fun abreast => ⟨abreast.related, inStep.cursor abreast.related⟩

/-- Sessions that go in step respond alike, also when a budget is spent. -/
theorem responses_match {requests : List Request} (related : like.Related state twin)
    (shared : ∀ request ∈ requests, like.Shares stage other request)
    (fine : ∀ moment, stage.DispatchesIn state requests moment → Fine moment)
    (mended : ∀ {state twin}, like.Broken state twin → like.Related state twin) :
    List.Forall₂ (Outcome.Matches like.Related like.Broken) (stage.responses state requests)
      (other.responses twin requests) :=
  inStep.follows.responses_match related shared fine (fun _ _ => .inl inStep.keepsPace)
    fun _ _ _ => mended

end InStep

/-- Where all variables and visits are shared, so is every request but perhaps for the end. -/
theorem shares (reads : ∀ name, like.Reads name)
    (visits : ∀ {state twin}, like.Related state twin →
      twin.ledger.visits = state.ledger.visits) {request : Request}
    (ended : request = .ended → ∀ state twin, like.Related state twin →
      other.hasEnded twin = stage.hasEnded state) : like.Shares stage other request := by
  cases request with
  | call call =>
      cases call with
      | cue | assign => trivial
      | evaluate test => exact reads test.name
  | read name => exact reads name
  | visits knot =>
      intro state twin related
      simp only [Ledger.visitCount, visits related]
  | ended => exact ended rfl

/-- Nothing that a session does depends on what was noted down before. -/
def sameCourse : Likeness where
  Related := State.SameCourse

end Likeness

namespace Stage.Unopposed

variable {stage : Stage} (unopposed : stage.Unopposed)

include unopposed

theorem sideBySide : Likeness.sameCourse.SideBySide stage stage where
  settings := rfl
  respelled := fun item => .refl item.action
  told := fun _ => trivial
  knows := fun _ => rfl
  weaken := id
  read := fun same _ => same.read _
  report := fun same _ => unopposed.report_matches unopposed
    (fun course twinCourse => (course.symm.trans same).trans twinCourse) _ _
  write := fun name value same => same.write name value
  enter := fun same _ _ _ => same.enter _
  idle := fun same idle => same.pending.trans idle
  waiting := by
    intro state twin pending same waiting
    refine ⟨pending, same.pending.trans waiting, .refl _, rfl, ?_⟩
    intro index number option twinOption picked pickedToo
    cases picked.symm.trans pickedToo
    exact ⟨same.settle pending number option, fun _ _ => trivial⟩

theorem aligned {state twin : State} (idle : state.pending = none)
    (same : state.SameCourse twin) (inline : Option Item) :
    Likeness.sameCourse.Aligned stage stage ⟨state, inline⟩ ⟨twin, inline⟩ where
  idle := idle
  next := by
    simp only [next?, same.cursor]
    exact Option.map_id_apply.symm
  stuck := same
  ended := fun _ => same
  past := fun _ => same.past inline
  asks := by
    intro item choice twinChoice _ action spelled
    cases action.symm.trans spelled
    exact same.present inline choice
  goesTo := fun _ _ => trivial
  decides := fun _ _ => trivial
  skips := fun _ _ => ⟨trivial, .inl unopposed⟩

end Stage.Unopposed

end StoryGraph
