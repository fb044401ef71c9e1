import StoryGraph.Proofs.Calls

/-!
A session always stands at real content. The cursor is in a knot of the story, at
an item or just behind the last one; a choice that waits stands where its record
says, bare or wrapped in conditions; and every option taken is an option of a
choice that stands where the ledger says.

During a walk an inline item is wrapped by the item before the cursor, since the
condition that led to it was passed when it was dispatched. This is what lets a
choice that was reached inline find its place again.
-/

set_option autoImplicit false

namespace StoryGraph

/-- An item wraps another if a chain of one or more bodies leads from it to the other. -/
inductive Item.Wraps : Item → Item → Prop where
  | body {test body} : Wraps (.condition test body) body
  | deeper {test body inner} : Wraps body inner → Wraps (.condition test body) inner

theorem Item.Wraps.inward {outer : Item} {test : Test} {body : Item}
    (wraps : outer.Wraps (.condition test body)) : outer.Wraps body := by
  generalize wrapped : Item.condition test body = inner at wraps
  induction wraps with
  | body =>
      subst wrapped
      exact .deeper .body
  | deeper _ inductionHypothesis => exact .deeper (inductionHypothesis wrapped)

theorem Item.eq_of_present? {item other : Item} (present : item.present? = some other) :
    other = item := by
  unfold present? at present
  split at present <;> cases present
  rfl

theorem Item.eq_choice_of_action {item : Item} {choice : Choice}
    (action : item.action = .ask choice) : item = .choice choice := by
  unfold Item.action at action
  split at action <;> cases action
  rfl

theorem Item.eq_divert_of_action {item : Item} {target : String}
    (action : item.action = .goTo target) : item = .divert target := by
  unfold Item.action at action
  split at action <;> cases action
  rfl

theorem Item.eq_condition_of_action {item : Item} {test : Test} {body : Option Item}
    (action : item.action = .decide test body) :
    ∃ inner, item = .condition test inner ∧ body = inner.present? := by
  unfold Item.action at action
  split at action <;> cases action
  exact ⟨_, rfl, rfl⟩

/-- An item stands at a place of a story: it is the item of the knot there or, inline,
that item wraps it. -/
def Story.Holds (story : Story) (knot : String) (position : Nat) (inline : Bool)
    (item : Item) : Prop :=
  ∃ items outer, story.get? knot = some items ∧ 1 ≤ position ∧ position ≤ items.length ∧
    items[position - 1]? = some outer ∧ if inline then outer.Wraps item else outer = item

/-- Where a condition stands, bare or wrapped, its body is wrapped. -/
theorem Story.Holds.inward {story : Story} {knot : String} {position : Nat} {inline : Bool}
    {test : Test} {body : Item} (held : story.Holds knot position inline (.condition test body)) :
    story.Holds knot position true body := by
  obtain ⟨items, outer, found, positive, inside, here, wraps⟩ := held
  refine ⟨items, outer, found, positive, inside, here, ?_⟩
  cases inline with
  | false =>
      cases wraps
      exact .body
  | true => exact wraps.inward

/-- A session stands at real content. -/
structure State.InPlace (story : Story) (state : State) : Prop where
  cursor : ∃ items, story.get? state.cursor.knot = some items ∧
    1 ≤ state.cursor.position ∧ state.cursor.position ≤ items.length + 1
  visited : 1 ≤ state.ledger.visitCount state.cursor.knot
  pending : ∀ pending, state.pending = some pending →
    pending.knot = state.cursor.knot ∧
      story.Holds pending.knot pending.position pending.inline (.choice pending.choice) ∧
      state.cursor.position =
        if pending.inline then pending.position + 1 else pending.position
  choices : ∀ record ∈ state.ledger.choices, ∃ inline choice,
    story.Holds record.knot record.position inline (.choice choice) ∧
      1 ≤ record.option ∧ record.option ≤ choice.options.length

/-- A walk is at real content: no choice waits, and an inline item is wrapped by the item
before the cursor. -/
structure Moment.InPlace (story : Story) (moment : Moment) : Prop where
  state : moment.state.InPlace story
  idle : moment.state.pending = none
  inline : ∀ item, moment.inline = some item →
    story.Holds moment.state.cursor.knot (moment.state.cursor.position - 1) true item

namespace State

variable {story : Story} {state after : State}

theorem InPlace.of_sameCourse (placed : state.InPlace story) (same : state.SameCourse after) :
    after.InPlace story where
  cursor := by rw [same.cursor]; exact placed.cursor
  visited := by rw [same.cursor, same.ledger]; exact placed.visited
  pending := by rw [same.cursor, same.pending]; exact placed.pending
  choices := by rw [same.ledger]; exact placed.choices

theorem InPlace.setBindings (placed : state.InPlace story) (bindings : Table Scalar) :
    ({ state with bindings } : State).InPlace story :=
  ⟨placed.cursor, placed.visited, placed.pending, placed.choices⟩

theorem InPlace.enter {target : String} (placed : state.InPlace story)
    (idle : state.pending = none) (known : story.contains target = true) :
    (state.enter target).InPlace story where
  cursor := by
    obtain ⟨items, found⟩ := Option.isSome_iff_exists.mp known
    exact ⟨items, found, Nat.le_refl 1, by simp [State.enter, writeLog]⟩
  visited := by simp [State.enter, writeLog]
  pending := by
    intro pending waiting
    simp [State.enter, writeLog, idle] at waiting
  choices := placed.choices

theorem InPlace.moveOn {item : Item} (placed : state.InPlace story)
    (idle : state.pending = none)
    (here : story.itemAt? state.cursor.knot state.cursor.position = some item) :
    state.moveOn.InPlace story where
  cursor := by
    obtain ⟨items, found, _, _⟩ := placed.cursor
    simp only [Story.itemAt?, found, Option.bind_eq_bind, Option.bind_some] at here
    have inside := (List.getElem?_eq_some_iff.mp here).1
    refine ⟨items, found, ?_, ?_⟩ <;> simp only [State.moveOn, moveTo] <;> omega
  visited := placed.visited
  pending := by
    intro pending waiting
    simp [State.moveOn, moveTo, idle] at waiting
  choices := placed.choices

end State

/-- A walk from a state between two calls begins in place. -/
theorem State.InPlace.outset {story : Story} {state : State} (placed : state.InPlace story)
    (idle : state.pending = none) : Moment.InPlace story ⟨state, none⟩ := ⟨placed, idle, by simp⟩

namespace Moment.InPlace

variable {stage : Stage} {state after : State} {inline : Option Item}

theorem of_sameCourse (placed : Moment.InPlace stage.story ⟨state, inline⟩)
    (same : state.SameCourse after) : Moment.InPlace stage.story ⟨after, inline⟩ where
  state := placed.state.of_sameCourse same
  idle := same.pending.trans placed.idle
  inline := by
    dsimp only
    rw [same.cursor]
    exact placed.inline

theorem past {item : Item} (placed : Moment.InPlace stage.story ⟨state, inline⟩)
    (next : stage.next? state inline = some item) :
    (Stage.past state inline).InPlace stage.story := by
  cases inline with
  | none => exact placed.state.moveOn placed.idle (by simpa [Stage.next?] using next)
  | some _ => exact placed.state

/-- Behind the item of a dispatch, that item stands before the cursor. -/
theorem holds_past {item : Item} (placed : Moment.InPlace stage.story ⟨state, inline⟩)
    (next : stage.next? state inline = some item) :
    stage.story.Holds (Stage.past state inline).cursor.knot
      ((Stage.past state inline).cursor.position - 1) inline.isSome item := by
  cases inline with
  | none =>
      obtain ⟨items, found, positive, _⟩ := placed.state.cursor
      simp only [Stage.next?, Option.none_or, Story.itemAt?, found, Option.bind_eq_bind,
        Option.bind_some] at next
      have inside := (List.getElem?_eq_some_iff.mp next).1
      refine ⟨items, item, found, positive, ?_, next, rfl⟩
      simp only [Stage.past, State.moveOn, State.moveTo]
      omega
  | some inner =>
      cases next
      exact placed.inline item rfl

theorem present {choice : Choice} (placed : Moment.InPlace stage.story ⟨state, inline⟩)
    (next : stage.next? state inline = some (.choice choice)) :
    (Stage.present state inline choice).InPlace stage.story where
  cursor := placed.state.cursor
  visited := placed.state.visited
  pending := by
    intro pending waiting
    have held := placed.holds_past next
    cases inline with
    | none =>
        cases waiting
        exact ⟨rfl, held, rfl⟩
    | some inner =>
        cases waiting
        refine ⟨rfl, held, ?_⟩
        obtain ⟨_, _, _, positive, _⟩ := held
        simp only [Stage.past] at positive
        simp only [Option.isSome_some, if_true, Stage.present]
        omega
  choices := placed.state.choices

end Moment.InPlace

namespace Stage

variable {stage : Stage}

theorem Moves.inPlace {moment next : Moment} (moves : stage.Moves moment next)
    (placed : moment.InPlace stage.story) : next.InPlace stage.story := by
  obtain ⟨state, inline⟩ := moment
  cases moves.rules with
  | goTo next action known =>
      exact ⟨placed.state.enter placed.idle known, placed.idle, by simp⟩
  | @assign item name value scalar next action isScalar =>
      have written := (placed.past next).setBindings (state.bindings.insert name scalar)
      refine ⟨?_, ?_, by simp⟩
      · cases inline <;> exact written
      · exact (pending_past _ _).trans placed.idle
  | @decide item test body after holds next action evaluated =>
      have same := sameCourse_of_evaluate evaluated
      refine ⟨(placed.past next).of_sameCourse same, ?_, ?_⟩
      · exact same.pending.trans ((pending_past _ _).trans placed.idle)
      · intro inner led
        obtain ⟨wrapped, rfl, rfl⟩ := Item.eq_condition_of_action action
        cases holds with
        | false => cases led
        | true =>
            cases Item.eq_of_present? led
            dsimp only
            rw [same.cursor]
            exact (placed.holds_past next).inward
  | @skip item kind after next action reported =>
      have same := sameCourse_of_report reported
      have placedNoted := placed.of_sameCourse same
      have nextNoted : stage.next? after inline = some item := by
        rw [← next]
        simp only [next?, same.cursor]
      refine ⟨placedNoted.past nextNoted, ?_, by simp⟩
      simpa using placedNoted.idle

theorem Halts.inPlace {moment : Moment} {outcome : Outcome Event}
    (halts : stage.Halts moment outcome) (placed : moment.InPlace stage.story) :
    outcome.1.InPlace stage.story := by
  obtain ⟨state, inline⟩ := moment
  cases halts.rules with
  | theEnd nothing => exact placed.state
  | say next action => exact placed.past next
  | ask next action =>
      cases Item.eq_choice_of_action action
      exact placed.present next
  | astray next action unknown => exact placed.state
  | unassignable next action nonScalar => exact placed.state
  | undecided next action evaluated =>
      exact (placed.past next).of_sameCourse (sameCourse_of_evaluate evaluated)
  | unskipped next action reported =>
      exact placed.state.of_sameCourse (sameCourse_of_report reported)

theorem Goes.inPlace {count : Nat} {moment last : Moment}
    (goes : stage.Goes count moment last) (placed : moment.InPlace stage.story) :
    last.InPlace stage.story :=
  goes.keeps (Moment.InPlace stage.story) (fun _ _ => Moves.inPlace) placed

theorem walk_inPlace (moment : Moment) (placed : moment.InPlace stage.story)
    (budget : Nat) :
    (stage.walk budget moment.state moment.inline).1.InPlace stage.story := by
  have rules := stage.walk_rules budget moment
  generalize stage.walk budget moment.state moment.inline = outcome at rules
  cases rules with
  | ended _ goes halts => exact halts.inPlace (goes.inPlace placed)
  | spent goes => exact (goes.inPlace placed).state

theorem walkOn_inPlace {state : State} (placed : state.InPlace stage.story)
    (idle : state.pending = none) : (stage.walkOn state).1.InPlace stage.story :=
  walk_inPlace ⟨state, none⟩ (placed.outset idle) stage.settings.maxSteps

theorem advance_inPlace {state : State} (placed : state.InPlace stage.story) :
    (stage.advance state).1.InPlace stage.story := by
  cases waiting : state.pending with
  | none => simpa [waiting] using walkOn_inPlace placed waiting
  | some pending => simpa [waiting] using placed

/-- A choice is settled behind its place, and the record of its option names the place. -/
theorem settle_inPlace {story : Story} {state : State} {index : Value} {pending : Pending}
    {number : Nat} {option : ChoiceOption} (placed : state.InPlace story)
    (waiting : state.pending = some pending)
    (picked : picked? pending.choice index = some (number, option)) :
    (settle state pending number option).InPlace story := by
  obtain ⟨sameKnot, held, position⟩ := placed.pending pending waiting
  obtain ⟨_, positive, present⟩ := picked?_eq_some.mp picked
  have inRange := (List.getElem?_eq_some_iff.mp present).1
  have sameKnotSettled :
      (settle state pending number option).cursor.knot = state.cursor.knot := by
    simp
  refine ⟨?_, ?_, by simp, ?_⟩
  · rw [sameKnotSettled, settle_cursor, Pending.behind, ← sameKnot]
    obtain ⟨items, _, found, _, inside, _⟩ := held
    refine ⟨items, found, ?_⟩
    split <;> simp_all
  · rw [sameKnotSettled, settle_ledger]
    exact placed.visited
  · intro record recorded
    rw [settle_ledger] at recorded
    rcases Array.mem_push.mp recorded with earlier | rfl
    · exact placed.choices record earlier
    · exact ⟨pending.inline, pending.choice, held, positive, by dsimp only; omega⟩

theorem fulfil_inPlace {state after : State} {option : ChoiceOption}
    {answer : Except Fault Unit} (placed : state.InPlace stage.story)
    (idle : state.pending = none) (fulfilled : stage.fulfil state option = (after, answer)) :
    after.InPlace stage.story := by
  rcases fulfil_cases fulfilled with ⟨bindings, rfl | ⟨target, _, known, rfl⟩⟩
  · exact placed.setBindings bindings
  · exact (placed.setBindings bindings).enter idle known

/-- Behind an answer the session is in place, and no choice waits. -/
theorem answered_inPlace {state after : State} {index : Value} {pending : Pending}
    {number : Nat} {option : ChoiceOption} {answer : Except Fault Unit}
    (placed : state.InPlace stage.story) (waiting : state.pending = some pending)
    (picked : picked? pending.choice index = some (number, option))
    (fulfilled : stage.fulfil (settle state pending number option) option = (after, answer)) :
    after.InPlace stage.story ∧ after.pending = none := by
  constructor
  · have settled := settle_inPlace placed waiting picked
    exact fulfil_inPlace settled (settle_pending ..) fulfilled
  · simp [fulfil_pending fulfilled]

theorem commit_inPlace {state : State} (placed : state.InPlace stage.story)
    (index : Value) : (stage.commit state index).1.InPlace stage.story := by
  have rules := stage.commit_rules state index
  generalize stage.commit state index = outcome at rules
  cases rules with
  | idle idle => exact placed
  | refused waiting unpicked => exact placed
  | failed waiting picked unfulfilled =>
      exact (answered_inPlace placed waiting picked unfulfilled).1
  | taken waiting picked fulfilled =>
      obtain ⟨placedAfter, idle⟩ := answered_inPlace placed waiting picked fulfilled
      exact walkOn_inPlace placedAfter idle

theorem after_inPlace {state : State} (placed : state.InPlace stage.story) (call : Call) :
    (stage.after state call).InPlace stage.story := by
  cases call with
  | cue cue =>
      cases cue with
      | advance => exact advance_inPlace placed
      | commit index => exact commit_inPlace placed index
  | assign name value =>
      obtain ⟨bindings, assigned⟩ := stage.after_assign state name value
      rw [assigned]
      exact placed.setBindings bindings
  | evaluate test => exact placed.of_sameCourse (stage.evaluate_cases state test).1

theorem opening_inPlace {story : Story} {knot : String}
    (known : story.contains knot = true) : (State.opening knot).InPlace story where
  cursor := by
    obtain ⟨items, found⟩ := Option.isSome_iff_exists.mp known
    exact ⟨items, found, Nat.le_refl 1, by simp [State.opening]⟩
  visited := by simp [State.opening]
  pending := by simp [State.opening]
  choices := by simp [State.opening, Ledger.recordVisit, Ledger.empty]

theorem Reachable.inPlace {stage : Stage} {knot : String} {state : State}
    (reachable : stage.Reachable knot state) : state.InPlace stage.story := by
  induction reachable with
  | start started =>
      obtain ⟨known, rfl⟩ := start_eq_ok.mp started
      exact opening_inPlace known
  | call call _ placed => exact after_inPlace placed call

/-- After any calls, failed ones among them, the cursor is in a knot that was visited, at
an item or behind the last; a choice that waits stands before or at the cursor, as it was
reached; and every record names the place of a choice that has the option. -/
theorem reachable_at_real_content (stage : Stage) (knot : String) (state : State)
    (reachable : stage.Reachable knot state) :
    (∃ items, stage.story.get? state.cursor.knot = some items ∧
      1 ≤ state.cursor.position ∧ state.cursor.position ≤ items.length + 1 ∧
      1 ≤ state.ledger.visitCount state.cursor.knot) ∧
    (∀ pending, state.pending = some pending →
      pending.knot = state.cursor.knot ∧
      stage.story.Holds pending.knot pending.position pending.inline
        (.choice pending.choice) ∧
      state.cursor.position =
        if pending.inline then pending.position + 1 else pending.position) ∧
    ∀ record ∈ state.ledger.choices, ∃ inline choice,
      stage.story.Holds record.knot record.position inline (.choice choice) ∧
        1 ≤ record.option ∧ record.option ≤ choice.options.length := by
  have placed := reachable.inPlace
  obtain ⟨items, found, positive, inside⟩ := placed.cursor
  exact ⟨⟨items, found, positive, inside, placed.visited⟩, placed.pending, placed.choices⟩

/-- A choice behind two conditions waits inline, with the cursor behind the outer one. -/
theorem reachable_at_real_content_inline :
    let choice : Choice := ⟨none, [.bare "Stay."]⟩
    let stage := ofKnots [("start",
      [.bare "Hello.", .unlessSet "mood" (.unlessSet "place" (.choice choice))])]
    let twice := stage.after (stage.after (.opening "start") (.cue .advance)) (.cue .advance)
    stage.Reachable "start" twice ∧ twice.cursor = ⟨"start", 3⟩ ∧
      twice.pending = some ⟨choice, "start", 2, true⟩ ∧
      stage.story.Holds "start" 2 true (.choice choice) := by
  intro choice stage twice
  have reachable : stage.Reachable "start" twice := .call _ (.call _ (.start rfl))
  have waiting : twice.pending = some ⟨choice, "start", 2, true⟩ := rfl
  exact ⟨reachable, rfl, waiting,
    ((stage.reachable_at_real_content "start" twice reachable).2.1 _ waiting).2.1⟩

end Stage

end StoryGraph
