import StoryGraph.Proofs.Reach
import StoryGraph.Proofs.SideBySide

/-!
Items that are not understood are transparent. Take them out of all knots: a session that never
runs out of its budget goes the same way over both stories. It shows the same, fails the same, and
has the same variables and visits after every call. Only places are renumbered, each by how many
items of its knot are understood up to it.

The first walk dispatches an item that is not understood where the second stays: both cursors have
the same items that are understood in front of them. So the second walk needs fewer dispatches.
Bodies of conditions are left as they are, and both walks skip those that are not understood.
-/

set_option autoImplicit false

namespace StoryGraph

/-- Whether an item asks for anything but to be skipped. -/
def Item.recognized (item : Item) : Bool :=
  match item.action with
  | .skip _ => false
  | _ => true

namespace Story

/-- A story without the items that are not understood. -/
def recognized (story : Story) : Story := story.map fun _ items => items.filter Item.recognized

/-- How many of the first items of a knot are understood. -/
def kept (story : Story) (knot : String) (position : Nat) : Nat :=
  (((story.get? knot).getD []).take position).countP Item.recognized

end Story

/-- Two states that are the same apart from what was noted down for readers, with the places of
the second one renumbered by the items that are understood. -/
structure State.Pruned (story : Story) (state twin : State) : Prop where
  positive : 1 ≤ state.cursor.position
  cursor : twin.cursor =
    ⟨state.cursor.knot, 1 + story.kept state.cursor.knot (state.cursor.position - 1)⟩
  bindings : twin.bindings = state.bindings
  visits : twin.ledger.visits = state.ledger.visits
  choices : twin.ledger.choices = state.ledger.choices.map fun record =>
    { record with position := story.kept record.knot record.position }
  idle : state.pending = none → twin.pending = none
  waiting : ∀ pending, state.pending = some pending → pending.knot = state.cursor.knot ∧
    twin.pending = some { pending with position := story.kept pending.knot pending.position }

/-- What a session has in common with the one over the story without the items that are not
understood. -/
def Likeness.pruned (story : Story) : Likeness where
  Related := State.Pruned story

theorem Item.action_of_unrecognized {item : Item} (unrecognized : item.recognized = false) :
    ∃ kind, item.action = .skip kind := by
  unfold recognized at unrecognized
  split at unrecognized
  · exact ⟨_, ‹_›⟩
  · cases unrecognized

namespace Story

variable {story : Story} {knot : String}

@[simp] theorem contains_recognized (story : Story) (name : String) :
    story.recognized.contains name = story.contains name := by
  simp only [Table.contains, recognized, Table.get?_map, Option.isSome_map]

@[simp] theorem kept_zero (story : Story) (knot : String) : story.kept knot 0 = 0 := by
  simp [kept]

theorem kept_succ_of_item {position : Nat} {item : Item}
    (here : story.itemAt? knot (position + 1) = some item) :
    story.kept knot (position + 1) =
      story.kept knot position + if item.recognized then 1 else 0 := by
  obtain ⟨items, found, present⟩ := Option.bind_eq_some_iff.mp here
  rw [Nat.add_sub_cancel] at present
  simp only [kept, found, Option.getD_some, List.take_add_one, present, Option.toList_some,
    List.countP_append, List.countP_singleton]

/-- Where no item that is not understood stands, the story without them has the same item at the
renumbered place. -/
theorem itemAt?_recognized {position : Nat}
    (proper : ∀ item, story.itemAt? knot (position + 1) = some item → item.recognized = true) :
    story.recognized.itemAt? knot (1 + story.kept knot position) =
      story.itemAt? knot (position + 1) := by
  simp only [itemAt?, recognized, Table.get?_map, kept, Nat.add_sub_cancel,
    Nat.add_sub_cancel_left] at proper ⊢
  cases found : story.get? knot with
  | none => rfl
  | some items =>
      simp only [found, Option.getD_some, Option.map_some, Option.bind_eq_bind,
        Option.bind_some] at proper ⊢
      -- The items behind the place are those behind it that are understood.
      have split : items.filter Item.recognized =
          (items.take position).filter Item.recognized ++
            (items.drop position).filter Item.recognized := by
        rw [← List.filter_append, List.take_append_drop]
      rw [split, List.countP_eq_length_filter, List.getElem?_append_right (Nat.le_refl _),
        Nat.sub_self]
      cases behind : items.drop position with
      | nil =>
          rw [List.getElem?_eq_none (List.drop_eq_nil_iff.mp behind)]
          rfl
      | cons item rest =>
          have here : items[position]? = some item := by
            rw [← List.head?_drop, behind, List.head?_cons]
          rw [List.filter_cons_of_pos (proper item here), here]
          rfl

end Story

theorem State.opening_pruned (story : Story) (knot : String) :
    (State.opening knot).Pruned story (.opening knot) where
  positive := Nat.le_refl 1
  cursor := by simp only [opening, Nat.sub_self, Story.kept_zero]
  bindings := rfl
  visits := rfl
  choices := Array.map_empty.symm
  idle := fun _ => rfl
  waiting := fun pending waiting => by cases waiting

namespace State.Pruned

variable {story : Story} {state twin after twinAfter : State}
  (pruned : state.Pruned story twin)

include pruned

theorem of_sameCourse (course : state.SameCourse after) (twinCourse : twin.SameCourse twinAfter) :
    after.Pruned story twinAfter where
  positive := by
    rw [course.cursor]
    exact pruned.positive
  cursor := by rw [twinCourse.cursor, course.cursor, pruned.cursor]
  bindings := by rw [twinCourse.bindings, course.bindings, pruned.bindings]
  visits := by rw [twinCourse.ledger, course.ledger, pruned.visits]
  choices := by rw [twinCourse.ledger, course.ledger, pruned.choices]
  idle := by
    rw [twinCourse.pending, course.pending]
    exact pruned.idle
  waiting := by
    rw [twinCourse.pending, course.pending, course.cursor]
    exact pruned.waiting

theorem write (name : String) (value : Scalar) :
    (state.write name value).Pruned story (twin.write name value) where
  positive := pruned.positive
  cursor := pruned.cursor
  bindings := by simp only [State.write, pruned.bindings]
  visits := pruned.visits
  choices := pruned.choices
  idle := pruned.idle
  waiting := pruned.waiting

theorem enter (idle : state.pending = none) (target : String) :
    (state.enter target).Pruned story (twin.enter target) where
  positive := Nat.le_refl 1
  cursor := by simp only [State.enter, writeLog, Nat.sub_self, Story.kept_zero]
  bindings := pruned.bindings
  visits := by
    simp only [State.enter, writeLog, Ledger.recordVisit, Ledger.visitCount, pruned.visits]
  choices := pruned.choices
  idle := pruned.idle
  waiting := fun pending waiting => by cases idle.symm.trans waiting

theorem moveTo (idle : state.pending = none) (position : Nat) :
    (state.moveTo (position + 1)).Pruned story
      (twin.moveTo (1 + story.kept state.cursor.knot position)) where
  positive := Nat.succ_pos position
  cursor := by simp only [State.moveTo, pruned.cursor, Nat.add_sub_cancel]
  bindings := pruned.bindings
  visits := pruned.visits
  choices := pruned.choices
  idle := pruned.idle
  waiting := fun pending waiting => by cases idle.symm.trans waiting

/-- Past an item that is understood, if there is one. -/
theorem moveOn (idle : state.pending = none) {position : Nat}
    (place : state.cursor.position = position + 1)
    (counted : story.kept state.cursor.knot (position + 1) =
      story.kept state.cursor.knot position + 1) :
    state.moveOn.Pruned story twin.moveOn := by
  have moved := pruned.moveTo idle (position + 1)
  rw [counted] at moved
  simp only [State.moveOn, pruned.cursor, place, Nat.add_sub_cancel]
  exact moved

/-- Past an item that is not understood. -/
theorem stay (idle : state.pending = none) {position : Nat}
    (place : state.cursor.position = position + 1)
    (counted : story.kept state.cursor.knot (position + 1) =
      story.kept state.cursor.knot position) : state.moveOn.Pruned story twin := by
  have moved := pruned.moveTo idle (position + 1)
  have stays : 1 + story.kept state.cursor.knot (position + 1) = twin.cursor.position := by
    rw [pruned.cursor, counted, place, Nat.add_sub_cancel]
  rw [stays] at moved
  simp only [State.moveOn, place]
  exact moved

theorem present (choice : Choice) (inline : Option Item)
    (kept : inline = none → ∃ position, state.cursor.position = position + 1 ∧
      story.kept state.cursor.knot (position + 1) = story.kept state.cursor.knot position + 1) :
    (Stage.present state inline choice).Pruned story (Stage.present twin inline choice) where
  positive := pruned.positive
  cursor := pruned.cursor
  bindings := pruned.bindings
  visits := pruned.visits
  choices := pruned.choices
  idle := fun idle => by cases idle
  waiting := by
    rintro pending ⟨⟩
    refine ⟨rfl, ?_⟩
    simp only [Stage.present, pruned.cursor, Option.some.injEq, Pending.mk.injEq, true_and,
      and_true]
    cases inline with
    | some _ => exact Nat.add_sub_cancel_left ..
    | none =>
        obtain ⟨position, place, counted⟩ := kept rfl
        dsimp only
        rw [place, counted, Nat.add_sub_cancel, Nat.add_comm]

theorem settle {pending : Pending} (waiting : state.pending = some pending) (number : Nat)
    (option : ChoiceOption) :
    (Stage.settle state pending number option).Pruned story
      (Stage.settle twin { pending with position := story.kept pending.knot pending.position }
        number option) := by
  obtain ⟨sameKnot, _⟩ := pruned.waiting pending waiting
  constructor
  · rw [Stage.settle_cursor, Pending.behind]
    split
    · exact pruned.positive
    · exact Nat.succ_pos _
  · rw [Stage.settle_cursor, Stage.settle_cursor, Pending.behind, Pending.behind]
    split
    · exact pruned.cursor
    · simp only [pruned.cursor, sameKnot, Nat.add_sub_cancel, Nat.add_comm]
  · simp [pruned.bindings]
  · rw [Stage.settle_ledger, Stage.settle_ledger]
    exact pruned.visits
  · rw [Stage.settle_ledger, Stage.settle_ledger]
    simp only [Ledger.recordChoice, pruned.choices, Array.map_push]
  · exact fun _ => Stage.settle_pending ..
  · intro other waitingToo
    rw [Stage.settle_pending] at waitingToo
    cases waitingToo

end State.Pruned

namespace Stage

variable {stage : Stage} {state twin : State} {inline : Option Item}

/-- What single calls do apart from walking on does not depend on the items of the knots. -/
theorem sideBySide_recognized (unopposed : stage.Unopposed) :
    (Likeness.pruned stage.story).SideBySide stage
      (stage.withStory stage.story.recognized) where
  settings := rfl
  respelled := fun item => .refl item.action
  told := fun _ => trivial
  knows := fun _ => stage.story.contains_recognized _
  weaken := id
  read := fun pruned _ => by simp only [State.read, State.Pruned.bindings pruned]
  report := fun pruned _ => unopposed.report_matches unopposed
    (fun course twinCourse => State.Pruned.of_sameCourse pruned course twinCourse) _ _
  write := fun name value pruned => State.Pruned.write pruned name value
  enter := fun pruned idle _ _ => State.Pruned.enter pruned idle _
  idle := State.Pruned.idle
  waiting := by
    intro state twin pending pruned waiting
    refine ⟨_, (State.Pruned.waiting pruned _ waiting).2, .refl _, rfl, ?_⟩
    intro index number option twinOption picked pickedToo
    cases picked.symm.trans pickedToo
    exact ⟨State.Pruned.settle pruned waiting number option, fun _ _ => trivial⟩

/-- An item that is understood, or any inline one, is the same to dispatch in both stories. -/
theorem aligned_recognized (unopposed : stage.Unopposed) (idle : state.pending = none)
    (pruned : state.Pruned stage.story twin)
    (proper : inline = none → ∀ item, stage.next? state none = some item →
      item.recognized = true) :
    (Likeness.pruned stage.story).Aligned stage (stage.withStory stage.story.recognized)
      ⟨state, inline⟩ ⟨twin, inline⟩ := by
  obtain ⟨position, place⟩ := Nat.exists_eq_add_of_le' pruned.positive
  have counted : inline = none → ∀ item, stage.next? state inline = some item →
      stage.story.kept state.cursor.knot (position + 1) =
        stage.story.kept state.cursor.knot position + 1 := by
    rintro rfl item next
    have understood := proper rfl item next
    rw [next?_bare, place] at next
    rw [Story.kept_succ_of_item next, if_pos understood]
  exact {
    idle
    next := by
      cases inline with
      | some _ => rfl
      | none =>
          have properHere := proper rfl
          simp only [next?_bare, place] at properHere
          simp only [next?_bare, withStory, pruned.cursor, place, Nat.add_sub_cancel,
            Story.itemAt?_recognized properHere]
          exact Option.map_id_apply.symm
    stuck := pruned
    ended := fun _ => pruned
    past := by
      intro item next
      cases inline with
      | some _ => exact pruned
      | none => exact pruned.moveOn idle place (counted rfl item next)
    asks := by
      intro item choice twinChoice next action spelled
      cases action.symm.trans spelled
      exact pruned.present choice inline fun bare => ⟨position, place, counted bare item next⟩
    goesTo := fun _ _ => trivial
    decides := fun _ _ => trivial
    skips := fun _ _ => ⟨trivial, .inl unopposed⟩ }

/-- Where the first walk skips an item that is not understood, the second one stays. -/
theorem moves_past_unrecognized (unopposed : stage.Unopposed) (idle : state.pending = none)
    (pruned : state.Pruned stage.story twin) {item : Item}
    (here : stage.next? state none = some item) (unrecognized : item.recognized = false) :
    ∃ after, stage.Moves ⟨state, none⟩ ⟨after, none⟩ ∧ after.Pruned stage.story twin := by
  obtain ⟨kind, action⟩ := Item.action_of_unrecognized unrecognized
  obtain ⟨position, place⟩ := Nat.exists_eq_add_of_le' pruned.positive
  have counted : stage.story.kept state.cursor.knot (position + 1) =
      stage.story.kept state.cursor.knot position := by
    have placed := here
    rw [next?_bare, place] at placed
    rw [Story.kept_succ_of_item placed, unrecognized]
    rfl
  obtain ⟨after, course, reported⟩ :=
    unopposed.report_eq state (.unrecognizedItem kind state.cursor)
  exact ⟨_, moves_of_rules (.skip here action reported),
    (pruned.stay idle place counted).of_sameCourse (course.past none) (.refl twin)⟩

theorem follows_recognized (unopposed : stage.Unopposed) :
    (Likeness.pruned stage.story).Follows stage (stage.withStory stage.story.recognized)
      (fun _ => True) (Likeness.pruned stage.story).Abreast where
  toSideBySide := sideBySide_recognized unopposed
  outset := fun pruned idle => ⟨idle, pruned, rfl⟩
  moves := by
    rintro ⟨state, inline⟩ next ⟨twin, twinInline⟩ ⟨idle, pruned, sameInline⟩ _ moves
    obtain rfl : twinInline = inline := sameInline.trans Option.map_id_apply
    have idleNext := moves.pending.trans idle
    by_cases proper : twinInline = none → ∀ item, stage.next? state none = some item →
        item.recognized = true
    · right
      obtain ⟨twinAfter, twinMoves, prunedNext⟩ :=
        (aligned_recognized unopposed idle pruned proper).moves_same
          (sideBySide_recognized unopposed) rfl moves
      exact ⟨_, twinMoves, idleNext, prunedNext, Option.map_id_apply.symm⟩
    · left
      push Not at proper
      obtain ⟨rfl, item, here, unrecognized⟩ := proper
      obtain ⟨after, skips, stays⟩ :=
        moves_past_unrecognized unopposed idle pruned here (Bool.eq_false_iff.mpr unrecognized)
      cases moves.unique skips
      exact ⟨idleNext, stays, rfl⟩
  halts := by
    rintro ⟨state, inline⟩ outcome ⟨twin, twinInline⟩ ⟨idle, pruned, sameInline⟩ _ halts
    obtain rfl : twinInline = inline := sameInline.trans Option.map_id_apply
    apply (aligned_recognized unopposed idle pruned _).halts (sideBySide_recognized unopposed) halts
    rintro rfl item here
    by_contra unrecognized
    obtain ⟨after, skips, _⟩ :=
      moves_past_unrecognized unopposed idle pruned here (Bool.eq_false_iff.mpr unrecognized)
    exact skips.not_halts halts

/-- Take all items that are not understood out of a story, but for bodies of conditions. Put a
row of requests, except for whether the story has ended, to sessions over both stories. As long as
none of the first runs out of the budget, the responses are the same, and so are variables and
visits behind each. Places of options taken and of the cursor are renumbered by the items that are
understood. -/
theorem unrecognized_items_are_transparent (stage : Stage) (unopposed : stage.Unopposed)
    (first : String) (state : State) (started : stage.start first = .ok state)
    (requests : List Request) (unasked : .ended ∉ requests)
    (inTime : ∀ outcome ∈ stage.responses state requests, ∀ fault,
      outcome.2 = .error fault → fault.isLoop = false) :
    let other := stage.withStory stage.story.recognized
    other.start first = .ok state ∧
      List.Forall₂ (Outcome.Alike (State.Pruned stage.story))
        (stage.responses state requests) (other.responses state requests) := by
  obtain ⟨known, rfl⟩ := start_eq_ok.mp started
  refine ⟨?_, ?_⟩
  · apply start_eq_ok.mpr
    exact ⟨(stage.story.contains_recognized first).trans known, rfl⟩
  · have shared : ∀ request ∈ requests, (Likeness.pruned stage.story).Shares stage
        (stage.withStory stage.story.recognized) request := by
      intro request member
      apply Likeness.shares (fun _ => trivial) State.Pruned.visits
      rintro rfl
      exact absurd member unasked
    have matched := (follows_recognized unopposed).responses_match
      (State.opening_pruned stage.story first) shared (fun _ _ => trivial)
      (fun _ member => .inr (inTime _ member)) (fun _ _ _ => id)
    exact matched.imp fun _ _ => Outcome.Matches.alike

/-- An item that is not understood stands first, one behind a line, one in a condition, one right
behind a choice and one at the end; the choice, which stands fifth, is the third item left. -/
theorem unrecognized_items_are_transparent_around_choice :
    let choice : Choice := ⟨none, [.bare "On.", .full "Again." (some "start") none]⟩
    let stage := ofKnots [("start", [.plain .nil, .bare "Night falls.", .unrecognized "image" .nil,
      .unlessSet "mood" (.unrecognized "sound" .nil), .choice choice, .plain (.list []),
      .set "mood" (.list []), .plain (.int 3)])]
    let other := stage.withStory stage.story.recognized
    let requests : List Request := [.call (.cue .advance), .call (.cue .advance),
      .call (.cue (.commit (.int 1))), .call (.cue .advance)]
    (stage.responses (.opening "start") requests).map Prod.snd =
        [.ok (.event (.line (.ofBody "Night falls."))),
          .ok (.event (.choice none ["On.", "Again."])), .error (.invalidValue "mood" "list"),
          .error (.invalidValue "mood" "list")] ∧
      (stage.responses (.opening "start") requests).map (fun outcome => outcome.1.ledger.choices) =
        [#[], #[], #[⟨"start", 5, 1⟩], #[⟨"start", 5, 1⟩]] ∧
      (other.responses (.opening "start") requests).map (fun outcome => outcome.1.ledger.choices) =
        [#[], #[], #[⟨"start", 3, 1⟩], #[⟨"start", 3, 1⟩]] ∧
      List.Forall₂ (Outcome.Alike (State.Pruned stage.story))
        (stage.responses (.opening "start") requests)
        (other.responses (.opening "start") requests) := by
  intro choice stage other requests
  have unasked : .ended ∉ requests := by
    simp [requests]
  have inTime : ∀ outcome ∈ stage.responses (.opening "start") requests, ∀ fault,
      outcome.2 = .error fault → fault.isLoop = false := by
    intro outcome member fault failed
    have checked : (stage.responses (.opening "start") requests).all (fun outcome =>
        match outcome.2 with
        | .ok _ => true
        | .error fault => !fault.isLoop) = true := rfl
    have heeded := List.all_eq_true.mp checked outcome member
    rw [failed] at heeded
    simpa using heeded
  exact ⟨rfl, rfl, rfl,
    (unrecognized_items_are_transparent stage nofun "start" _ rfl requests unasked inTime).2⟩

end Stage

end StoryGraph
