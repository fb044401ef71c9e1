import StoryGraph.Proofs.Reach
import StoryGraph.Proofs.SideBySide

/-!
A condition that holds stands for its body. Put the body of a condition in its place: a session
in which every test of the condition at that place holds goes the same way over both stories. It
shows the same, fails the same, and has the same variables and ledger after every call, and the
same cursor whenever no choice waits.

Over the first story a dispatch of the condition leads to its body inline, with the cursor behind
the place; over the second one the body is still to be dispatched, bare, with the cursor at the
place. This is the only difference, also while a choice waits that is the body. It costs the first
walk one dispatch more.
-/

set_option autoImplicit false

namespace StoryGraph

/-- Two states from which sessions go on the same way: with the same variables and the same ledger,
at the same cursor or behind the same choice at the same place. -/
structure State.SameWay (state twin : State) : Prop where
  bindings : twin.bindings = state.bindings
  ledger : twin.ledger = state.ledger
  idle : state.pending = none → twin.pending = none ∧ twin.cursor = state.cursor
  waiting : ∀ pending, state.pending = some pending → ∃ twinPending,
    twin.pending = some twinPending ∧ twinPending.choice = pending.choice ∧
      twinPending.knot = pending.knot ∧ twinPending.position = pending.position ∧
      twinPending.behind twin.cursor = pending.behind state.cursor

/-- Moments of a walk over a story with a condition at a place, and of one over the story with
its body there: both walks are at the same point, or the first has the body inline that the second
has in front of it. -/
inductive Unwrapped (knot : String) (index : Nat) (body : Item) : Moment → Moment → Prop where
  | abreast {state twin inline} (idle : state.pending = none) (same : state.SameWay twin) :
      Unwrapped knot index body ⟨state, inline⟩ ⟨twin, inline⟩
  | inside {state twin} (idle : state.pending = none) (sameKnot : twin.cursor.knot = knot)
      (samePlace : twin.cursor.position - 1 = index) (same : state.SameWay twin.moveOn) :
      Unwrapped knot index body ⟨state, some body⟩ ⟨twin, none⟩

/-- What sessions have in common that go on the same way. Behind a call that broke nothing needs to
be left of it. -/
def Likeness.sameWay : Likeness where
  Related := State.SameWay
  Broken _ _ := True

/-- If a moment is at a place, bare, the test there holds. -/
def Stage.HoldsAt (stage : Stage) (knot : String) (index : Nat) (test : Test) (moment : Moment) :
    Prop :=
  moment.inline = none → moment.state.cursor.knot = knot →
    moment.state.cursor.position - 1 = index →
      (stage.evaluate moment.state.moveOn test).2 = .ok true

namespace State

variable {state twin after twinAfter : State}

theorem SameCourse.sameWay (same : state.SameCourse twin) : state.SameWay twin where
  bindings := same.bindings
  ledger := same.ledger
  idle := fun idle => ⟨same.pending.trans idle, same.cursor⟩
  waiting := fun pending waiting =>
    ⟨pending, same.pending.trans waiting, rfl, rfl, rfl, by rw [same.cursor]⟩

namespace SameWay

theorem sameCourse (same : state.SameWay twin) (idle : state.pending = none) :
    state.SameCourse twin :=
  ⟨(same.idle idle).2, same.bindings, same.ledger, (same.idle idle).1.trans idle.symm⟩

theorem of_sameCourse (same : state.SameWay twin) (course : state.SameCourse after)
    (twinCourse : twin.SameCourse twinAfter) : after.SameWay twinAfter where
  bindings := by rw [twinCourse.bindings, course.bindings, same.bindings]
  ledger := by rw [twinCourse.ledger, course.ledger, same.ledger]
  idle := by
    intro idle
    rw [twinCourse.pending, twinCourse.cursor, course.cursor]
    exact same.idle (course.pending.symm.trans idle)
  waiting := by
    intro pending waiting
    rw [twinCourse.pending, twinCourse.cursor, course.cursor]
    exact same.waiting pending (course.pending.symm.trans waiting)

theorem write (same : state.SameWay twin) (name : String) (value : Scalar) :
    (state.write name value).SameWay (twin.write name value) where
  bindings := by simp only [State.write, same.bindings]
  ledger := same.ledger
  idle := same.idle
  waiting := same.waiting

theorem enter (same : state.SameWay twin) (idle : state.pending = none) (target : String) :
    (state.enter target).SameWay (twin.enter target) where
  bindings := same.bindings
  ledger := by simp only [State.enter, writeLog, same.ledger]
  idle := fun idle => ⟨(same.idle idle).1, rfl⟩
  waiting := fun pending waiting => by cases idle.symm.trans waiting

theorem settle (same : state.SameWay twin) {pending twinPending : Pending}
    (sameKnot : twinPending.knot = pending.knot)
    (samePosition : twinPending.position = pending.position)
    (behind : twinPending.behind twin.cursor = pending.behind state.cursor) (number : Nat)
    (option : ChoiceOption) :
    (Stage.settle state pending number option).SameWay
      (Stage.settle twin twinPending number option) := by
  apply SameCourse.sameWay
  constructor
  · simp [behind]
  · simp [same.bindings]
  · simp [same.ledger, sameKnot, samePosition]
  · simp

end SameWay

end State

/-- A story with another item at a place has that one there, and elsewhere the same items. -/
theorem Story.itemAt?_insert_set {story : Story} {knot : String} {items : List Item} {index : Nat}
    (found : story.get? knot = some items) (inside : index < items.length) (item : Item)
    (other : String) (position : Nat) :
    itemAt? (story.insert knot (items.set index item)) other position =
      if other = knot ∧ position - 1 = index then some item
      else story.itemAt? other position := by
  unfold itemAt?
  rw [Table.get?_insert]
  by_cases sameKnot : other = knot
  · subst sameKnot
    rw [if_pos rfl, found]
    by_cases samePlace : position - 1 = index
    · subst samePlace
      simp [inside]
    · simp [samePlace, List.getElem?_set_ne (Ne.symm samePlace)]
  · simp [sameKnot]

@[simp] theorem Item.action_of_proper {test : Test} {body : Item}
    (proper : body.present? = some body) :
    (Item.condition test body).action = .decide test (some body) := by
  rw [action, proper]

namespace Stage

@[simp] theorem contains_insert_set {story : Story} {knot : String} {items : List Item}
    (found : story.get? knot = some items) (index : Nat) (item : Item) (name : String) :
    (story.insert knot (items.set index item)).contains name = story.contains name := by
  unfold Table.contains
  rw [Table.get?_insert]
  split
  next same =>
    rw [same, found]
    rfl
  next => rfl

section unwrap

variable {stage : Stage} {knot : String} {items : List Item} {index : Nat} {test : Test}
  {body : Item} {state twin : State} {inline : Option Item}

/-- What single calls do apart from walking on does not depend on the items of a knot. -/
theorem sideBySide_unwrapped (unopposed : stage.Unopposed)
    (found : stage.story.get? knot = some items) (index : Nat) (body : Item) :
    Likeness.sameWay.SideBySide stage
      (stage.withStory (stage.story.insert knot (items.set index body))) where
  settings := rfl
  respelled := fun item => .refl item.action
  told := fun _ => trivial
  knows := fun _ => contains_insert_set found index body _
  weaken := fun _ => trivial
  read := fun same _ => by simp only [State.read, same.bindings]
  report := fun same _ => unopposed.report_matches unopposed same.of_sameCourse _ _
  write := fun name value same => same.write name value
  enter := fun same idle _ _ => same.enter idle _
  idle := fun same idle => (same.idle idle).1
  waiting := by
    intro state twin pending same waiting
    obtain ⟨twinPending, waitingToo, sameChoice, sameKnot, samePosition, behind⟩ :=
      same.waiting pending waiting
    refine ⟨twinPending, waitingToo, sameChoice ▸ .refl _, sameKnot, ?_⟩
    intro index number option twinOption picked pickedToo
    rw [sameChoice, picked] at pickedToo
    cases pickedToo
    exact ⟨same.settle sameKnot samePosition behind number option, fun _ _ => trivial⟩

/-- The body inline and the body bare in front of the cursor are the same to dispatch. -/
theorem aligned_inside (unopposed : stage.Unopposed)
    (found : stage.story.get? knot = some items) (inside : index < items.length)
    (idle : state.pending = none) (sameKnot : twin.cursor.knot = knot)
    (samePlace : twin.cursor.position - 1 = index) (same : state.SameWay twin.moveOn) :
    Likeness.sameWay.Aligned stage
      (stage.withStory (stage.story.insert knot (items.set index body)))
      ⟨state, some body⟩ ⟨twin, none⟩ where
  idle := idle
  next := by
    simp [next?, withStory, Story.itemAt?_insert_set found inside, sameKnot, samePlace,
      Likeness.sameWay]
  stuck := trivial
  ended := nofun
  past := fun _ => same
  asks := by
    intro item choice twinChoice _ action spelled
    cases action.symm.trans spelled
    obtain ⟨_, sameCursor⟩ := same.idle idle
    have knots : twin.moveOn.cursor.knot = state.cursor.knot := congrArg Cursor.knot sameCursor
    have positions : twin.moveOn.cursor.position = state.cursor.position :=
      congrArg Cursor.position sameCursor
    refine ⟨same.bindings, same.ledger, (fun idle => by cases idle), ?_⟩
    rintro pending ⟨⟩
    exact ⟨_, rfl, rfl, knots, Nat.eq_sub_of_add_eq positions, sameCursor⟩
  goesTo := fun _ _ => trivial
  decides := fun _ _ => trivial
  skips := fun _ _ => ⟨trivial, .inl unopposed⟩

/-- Away from the place both stories have the same items. -/
theorem aligned_abreast (unopposed : stage.Unopposed)
    (found : stage.story.get? knot = some items) (inside : index < items.length)
    (body : Item) (idle : state.pending = none) (same : state.SameWay twin)
    (away : inline = none → state.cursor.knot = knot → state.cursor.position - 1 ≠ index) :
    Likeness.sameWay.Aligned stage
      (stage.withStory (stage.story.insert knot (items.set index body)))
      ⟨state, inline⟩ ⟨twin, inline⟩ where
  idle := idle
  next := by
    cases inline with
    | some _ => rfl
    | none =>
        have elsewhere := fun place : state.cursor.knot = knot ∧ _ = index =>
          away rfl place.1 place.2
        simp only [next?_bare, withStory, (same.idle idle).2,
          Story.itemAt?_insert_set found inside, if_neg elsewhere]
        exact Option.map_id_apply.symm
  stuck := trivial
  ended := fun _ => same
  past := fun _ => ((same.sameCourse idle).past inline).sameWay
  asks := by
    intro item choice twinChoice _ action spelled
    cases action.symm.trans spelled
    exact ((same.sameCourse idle).present inline choice).sameWay
  goesTo := fun _ _ => trivial
  decides := fun _ _ => trivial
  skips := fun _ _ => ⟨trivial, .inl unopposed⟩

/-- At the place the first walk takes the condition off its body. -/
theorem moves_at_place (found : stage.story.get? knot = some items)
    (here : items[index]? = some (.condition test body)) (proper : body.present? = some body)
    (sameKnot : state.cursor.knot = knot) (samePlace : state.cursor.position - 1 = index)
    (holds : (stage.evaluate state.moveOn test).2 = .ok true) :
    ∃ after, stage.Moves ⟨state, none⟩ ⟨after, some body⟩ ∧ state.moveOn.SameCourse after := by
  have next : stage.next? state none = some (.condition test body) := by
    simp only [next?_bare, Story.itemAt?, sameKnot, found, samePlace]
    exact here
  have course := (stage.evaluate_cases state.moveOn test).1
  rcases evaluated : stage.evaluate state.moveOn test with ⟨after, answer⟩
  rw [evaluated] at holds course
  cases holds
  exact ⟨after, moves_of_rules (.decide next (Item.action_of_proper proper) evaluated), course⟩

theorem follows_unwrapped (unopposed : stage.Unopposed)
    (found : stage.story.get? knot = some items)
    (here : items[index]? = some (.condition test body)) (proper : body.present? = some body) :
    Likeness.sameWay.Follows stage
      (stage.withStory (stage.story.insert knot (items.set index body)))
      (stage.HoldsAt knot index test) (Unwrapped knot index body) where
  toSideBySide := sideBySide_unwrapped unopposed found index body
  outset := fun same idle => .abreast idle same
  moves := by
    intro moment next twin parallel holds moves
    have pair := sideBySide_unwrapped unopposed found index body
    have inside := (List.getElem?_eq_some_iff.mp here).1
    have idleNext := moves.pending
    cases parallel with
    | inside idle sameKnot samePlace same =>
        right
        obtain ⟨twinAfter, twinMoves, sameNext⟩ :=
          (aligned_inside unopposed found inside idle sameKnot samePlace same).moves_same pair rfl
            moves
        exact ⟨_, twinMoves, .abreast (idleNext.trans idle) sameNext⟩
    | @abreast state twin inline idle same =>
        by_cases place : inline = none ∧ state.cursor.knot = knot ∧
            state.cursor.position - 1 = index
        · left
          obtain ⟨rfl, sameKnot, samePlace⟩ := place
          obtain ⟨after, toBody, course⟩ := moves_at_place found here proper sameKnot samePlace
            (holds rfl sameKnot samePlace)
          cases moves.unique toBody
          obtain ⟨_, sameCursor⟩ := same.idle idle
          refine .inside (idleNext.trans idle) ?_ ?_ ?_
          · rw [sameCursor, sameKnot]
          · rw [sameCursor, samePlace]
          · exact ((same.sameCourse idle).past none).sameWay.of_sameCourse course (.refl _)
        · right
          have away : inline = none → state.cursor.knot = knot →
              state.cursor.position - 1 ≠ index :=
            fun bare sameKnot samePlace => place ⟨bare, sameKnot, samePlace⟩
          obtain ⟨twinAfter, twinMoves, sameNext⟩ :=
            (aligned_abreast unopposed found inside body idle same away).moves_same pair rfl moves
          exact ⟨_, twinMoves, .abreast (idleNext.trans idle) sameNext⟩
  halts := by
    intro moment outcome twin parallel holds halts
    have pair := sideBySide_unwrapped unopposed found index body
    have inside := (List.getElem?_eq_some_iff.mp here).1
    cases parallel with
    | inside idle sameKnot samePlace same =>
        exact (aligned_inside unopposed found inside idle sameKnot samePlace same).halts pair halts
    | @abreast state twin inline idle same =>
        refine (aligned_abreast unopposed found inside body idle same ?_).halts pair halts
        rintro rfl sameKnot samePlace
        obtain ⟨_, toBody, _⟩ := moves_at_place found here proper sameKnot samePlace
          (holds rfl sameKnot samePlace)
        exact toBody.not_halts halts

theorem hasEnded_unwrapped (found : stage.story.get? knot = some items) (index : Nat) (body : Item)
    (same : state.SameWay twin) :
    (stage.withStory (stage.story.insert knot (items.set index body))).hasEnded twin =
      stage.hasEnded state := by
  unfold hasEnded
  cases waiting : state.pending with
  | some pending =>
      obtain ⟨_, waitingToo, _⟩ := same.waiting pending waiting
      simp [waitingToo]
  | none =>
      obtain ⟨waitingToo, sameCursor⟩ := same.idle waiting
      by_cases sameKnot : state.cursor.knot = knot
      · simp [waitingToo, sameCursor, withStory, sameKnot, found]
      · simp [waitingToo, sameCursor, withStory, sameKnot]

end unwrap

/-- Put the body of a condition in its place in a story. Take a session over the story as it was
in which every test of the condition at that place holds, up to and including the first request
that breaks, which is not by running out of the budget. Over the other story the same requests get
the same responses, and behind each that did not break the session goes on the same way. -/
theorem condition_that_holds_is_body (stage : Stage) (knot : String) (items : List Item)
    (index : Nat) (test : Test) (body : Item) (unopposed : stage.Unopposed)
    (found : stage.story.get? knot = some items)
    (here : items[index]? = some (.condition test body)) (proper : body.present? = some body)
    (first : String) (state : State) (started : stage.start first = .ok state)
    (requests : List Request)
    (holds : ∀ moment, stage.DispatchesIn state requests moment → moment.inline = none →
      moment.state.cursor = ⟨knot, index + 1⟩ →
        (stage.evaluate moment.state.moveOn test).2 = .ok true)
    (unbroken : ∀ outcome ∈ (stage.responses state requests).dropLast, outcome.broken = false)
    (inTime : ∀ outcome ∈ stage.responses state requests, ∀ fault,
      outcome.2 = .error fault → fault.isLoop = false) :
    let other := stage.withStory (stage.story.insert knot (items.set index body))
    other.start first = .ok state ∧
      List.Forall₂ (Outcome.Matches State.SameWay fun _ _ => True)
        (stage.responses state requests) (other.responses state requests) := by
  obtain ⟨known, rfl⟩ := start_eq_ok.mp started
  have holdsAt : ∀ moment, stage.DispatchesIn (.opening first) requests moment →
      stage.HoldsAt knot index test moment := by
    intro moment dispatches bare sameKnot samePlace
    obtain ⟨_, _, positive, _⟩ := (dispatches.inPlace (opening_inPlace known)).state.cursor
    apply holds moment dispatches bare
    rw [← sameKnot, ← samePlace, Nat.sub_add_cancel positive]
  refine ⟨?_, ?_⟩
  · apply start_eq_ok.mpr
    exact ⟨(contains_insert_set found index body first).trans known, rfl⟩
  · apply (follows_unwrapped unopposed found here proper).responses_match
      (State.SameCourse.refl _).sameWay _ holdsAt (fun _ member => .inr (inTime _ member))
    · intro outcome earlier broke
      rw [unbroken outcome earlier] at broke
      cases broke
    · intro request _
      apply Likeness.shares (fun _ => trivial)
      · exact fun same => congrArg Ledger.visits (State.SameWay.ledger same)
      · exact fun _ _ _ same => hasEnded_unwrapped found index body same

/-- A choice behind a condition leads back to its knot, where the condition holds again, and is
turned away once in between; the last request breaks. -/
theorem condition_that_holds_is_body_reentered :
    let choice : Choice := ⟨none, [.full "Again." (some "start") none, .bare "On."]⟩
    let stage := ofKnots [("start", [.unlessSet "mood" (.choice choice), .bare "Night falls."])]
    let other := stage.withStory (stage.story.insert "start" [.choice choice, .bare "Night falls."])
    let requests : List Request := [.call (.cue .advance), .call (.cue (.commit .nil)),
      .call (.cue (.commit (.int 1))), .call (.assign "mood" (.list []))]
    (∀ moment, stage.DispatchesIn (.opening "start") requests moment → moment.inline = none →
      moment.state.cursor = ⟨"start", 1⟩ →
        (stage.evaluate moment.state.moveOn ⟨"mood", .known .equal, .nil⟩).2 = .ok true) ∧
      (stage.responses (.opening "start") requests).map Prod.snd =
        [.ok (.event (.choice none ["Again.", "On."])), .error (.invalidChoice "None" "start" 2),
          .ok (.event (.choice none ["Again.", "On."])), .error (.invalidValue "mood" "list")] ∧
      List.Forall₂ (Outcome.Matches State.SameWay fun _ _ => True)
        (stage.responses (.opening "start") requests)
        (other.responses (.opening "start") requests) := by
  intro choice stage other requests
  -- Both walks dispatch the condition first, where the mood is not set, and then the choice.
  have holds : ∀ moment, stage.DispatchesIn (.opening "start") requests moment →
      moment.inline = none → moment.state.cursor = ⟨"start", 1⟩ →
        (stage.evaluate moment.state.moveOn ⟨"mood", .known .equal, .nil⟩).2 = .ok true := by
    have walk : ∀ {state : State} {count moment}, stage.Goes count ⟨state, none⟩ moment →
        stage.Moves ⟨state, none⟩ ⟨state.moveOn, some (.choice choice)⟩ →
        stage.Halts ⟨state.moveOn, some (.choice choice)⟩
          (present state.moveOn (some (.choice choice)) choice, .ok (.ofChoice choice)) →
        moment.inline = none → moment.state = state := by
      intro state count moment goes toBody halts bare
      cases goes with
      | start => rfl
      | next moves rest =>
          cases moves.unique toBody
          cases rest with
          | start => cases bare
          | next moves => exact absurd halts moves.not_halts
    intro moment dispatches bare here
    simp only [requests] at dispatches
    rcases dispatches with ⟨⟨⟩, _, goes⟩ | ⟨walks, _, _⟩ | ⟨walks, _, goes⟩ | dispatches
    · rw [walk goes rfl rfl bare]
      rfl
    · obtain _ | ⟨waiting, picked, _⟩ := walks
      cases waiting
      cases picked
    · obtain _ | ⟨waiting, picked, fulfilled⟩ := walks
      cases waiting
      cases picked
      cases fulfilled
      rw [walk goes rfl rfl bare]
      rfl
    · rcases dispatches with _ | dispatches
      cases dispatches
  have answers : (stage.responses (.opening "start") requests).map Prod.snd =
      [.ok (.event (.choice none ["Again.", "On."])), .error (.invalidChoice "None" "start" 2),
        .ok (.event (.choice none ["Again.", "On."])), .error (.invalidValue "mood" "list")] := rfl
  have unbroken : ∀ outcome ∈ (stage.responses (.opening "start") requests).dropLast,
      outcome.broken = false := by
    have checked : ((stage.responses (.opening "start") requests).dropLast).all
        (fun outcome => !outcome.broken) = true := rfl
    simpa using checked
  have inTime : ∀ outcome ∈ stage.responses (.opening "start") requests, ∀ fault,
      outcome.2 = .error fault → fault.isLoop = false := by
    intro outcome member fault failed
    have answered := List.mem_map_of_mem (f := Prod.snd) member
    rw [answers, failed] at answered
    simp only [List.mem_cons, reduceCtorEq, Except.error.injEq, List.not_mem_nil, or_false,
      false_or] at answered
    rcases answered with rfl | rfl <;> rfl
  exact ⟨holds, answers, (condition_that_holds_is_body stage "start" _ 0 _ (.choice choice) nofun
    rfl rfl rfl "start" _ rfl requests holds unbroken inTime).2⟩

end Stage

end StoryGraph
