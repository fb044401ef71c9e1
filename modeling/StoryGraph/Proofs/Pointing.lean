import StoryGraph.Proofs.Faults
import StoryGraph.Proofs.Retry

/-!
Where an item stands that is not understood, and where its notice says that it stands. The notice
names the cursor. A bare item stands there. But the condition that wraps an inline item was passed
when it was dispatched, so that item stands before the cursor, where also the record of a choice
that is reached inline says that it stands. Its notice points one position too far: behind the knot,
if the condition is the last item in it.

The story may change between two calls, so an inline item is at its place during the walk of a call
and need not be from call to call.
-/

set_option autoImplicit false

namespace StoryGraph

theorem Story.holds_of_itemAt? {story : Story} {knot : String} {position : Nat} {item : Item}
    (positive : 1 ≤ position) (here : story.itemAt? knot position = some item) :
    story.Holds knot position false item := by
  obtain ⟨items, found, present⟩ := itemAt?_eq_some.mp here
  have inside := (List.getElem?_eq_some_iff.mp present).1
  exact ⟨items, item, found, positive, by omega, present, rfl⟩

/-- Positions count from one, and an inline item is wrapped by the item at its place. -/
structure Moment.Wrapped (story : Story) (moment : Moment) : Prop where
  counted : moment.state.Counted
  inline : ∀ item, moment.inline = some item →
    story.Holds moment.place.knot moment.place.position true item

namespace Moment.Wrapped

variable {stage : Stage} {moment : Moment} {item : Item}

/-- The item of a dispatch stands at its place. -/
theorem holds_place (wrapped : moment.Wrapped stage.story)
    (next : stage.next? moment.state moment.inline = some item) :
    stage.story.Holds moment.place.knot moment.place.position moment.inline.isSome item := by
  obtain ⟨state, inline⟩ := moment
  cases inline with
  | none =>
      rw [Stage.next?_bare] at next
      exact Story.holds_of_itemAt? wrapped.counted.position next
  | some inner =>
      cases next
      exact wrapped.inline item rfl

/-- The cursor is at the place of a bare item and behind the place of an inline one. -/
theorem cursor_eq_place_iff (wrapped : moment.Wrapped stage.story) :
    moment.state.cursor = moment.place ↔ moment.inline = none := by
  obtain ⟨state, inline⟩ := moment
  cases inline with
  | none => exact ⟨fun _ => rfl, fun _ => rfl⟩
  | some item =>
      have positive := wrapped.counted.position
      have apart : state.cursor.position ≠ state.cursor.position - 1 := by
        dsimp only at positive
        omega
      constructor
      · intro same
        exact absurd (congrArg Cursor.position same) apart
      · nofun

end Moment.Wrapped

namespace Stage

variable {stage : Stage} {state : State} {inline : Option Item} {notice : Notice}

/-- Behind the item of a dispatch, its place is before the cursor. -/
theorem place_eq_before_past (state : State) (inline : Option Item) :
    (Moment.mk state inline).place =
      ⟨(past state inline).cursor.knot, (past state inline).cursor.position - 1⟩ := by
  cases inline <;> rfl

theorem Moves.wrapped {moment next : Moment} (moves : stage.Moves moment next)
    (wrapped : moment.Wrapped stage.story) : next.Wrapped stage.story := by
  refine ⟨moves.counted wrapped.counted, ?_⟩
  intro inner led
  obtain ⟨state, inline⟩ := moment
  cases moves.rules with
  | goTo => cases led
  | assign => cases led
  | skip => cases led
  | @decide item test body after holds next action evaluated =>
      obtain ⟨inside, rfl, rfl⟩ := Item.eq_condition_of_action action
      cases holds with
      | false => cases led
      | true =>
          have held := (wrapped.holds_place next).inward
          rw [place_eq_before_past, ← (sameCourse_of_evaluate evaluated).cursor] at held
          have place : (Moment.mk after (some inner)).place =
              ⟨after.cursor.knot, after.cursor.position - 1⟩ := rfl
          change inside.present? = some inner at led
          rw [if_pos rfl, led, place, Item.eq_of_present? led]
          exact held

theorem Goes.wrapped {count : Nat} {moment last : Moment} (goes : stage.Goes count moment last)
    (wrapped : moment.Wrapped stage.story) : last.Wrapped stage.story :=
  goes.keeps (Moment.Wrapped stage.story) (fun _ _ => Moves.wrapped) wrapped

theorem wrapped_outset (counted : state.Counted) : Moment.Wrapped stage.story ⟨state, none⟩ :=
  ⟨counted, nofun⟩

/-- A walk records what is noted down at its dispatches and nothing else. -/
theorem walk_told_iff (stage : Stage) (budget : Nat) (moment : Moment) :
    ∃ told, stage.Told moment.state (stage.walk budget moment.state moment.inline).1 told ∧
      ∀ notice, notice ∈ told ↔ ∃ count middle, count < budget ∧
        stage.Goes count moment middle ∧
        stage.noted? middle.state middle.inline = some notice := by
  induction budget generalizing moment with
  | zero =>
      refine ⟨[], .nothing rfl rfl rfl, fun notice => ⟨nofun, ?_⟩⟩
      rintro ⟨_, _, early, _⟩
      exact absurd early (Nat.not_lt_zero _)
  | succ budget inductionHypothesis =>
      rcases stage.moves_or_halts moment with ⟨next, moves⟩ | ⟨outcome, halts⟩
      · obtain ⟨told, later, whence⟩ := inductionHypothesis next
        rw [walk_succ_of_moves moves]
        refine ⟨_, moves.told.trans later, fun notice => ?_⟩
        rw [List.mem_append, Option.mem_toList, whence]
        constructor
        · rintro (here | ⟨count, middle, early, goes, noted⟩)
          · exact ⟨0, moment, Nat.succ_pos _, .start, here⟩
          · exact ⟨count + 1, middle, Nat.succ_lt_succ early, .next moves goes, noted⟩
        · rintro ⟨_, middle, early, goes, noted⟩
          cases goes with
          | start => exact .inl noted
          | next moves' goes =>
              cases moves.unique moves'
              exact .inr ⟨_, middle, Nat.lt_of_succ_lt_succ early, goes, noted⟩
      · rw [walk_succ_of_halts halts]
        refine ⟨_, halts.told, fun notice => ?_⟩
        rw [Option.mem_toList]
        constructor
        · intro here
          exact ⟨0, moment, Nat.succ_pos _, .start, here⟩
        · rintro ⟨_, middle, _, goes, noted⟩
          cases goes with
          | start => exact noted
          | next moves => exact absurd halts moves.not_halts

theorem Outset.unique {cue : Cue} {outset other : State} (walks : stage.Outset state cue outset)
    (walksToo : stage.Outset state cue other) : outset = other := by
  cases walks with
  | onward => cases walksToo with | onward => rfl
  | answered waiting picked fulfilled =>
      cases walksToo with
      | answered waiting' picked' fulfilled' =>
          rw [waiting] at waiting'
          cases waiting'
          rw [picked] at picked'
          cases picked'
          rw [fulfilled] at fulfilled'
          cases fulfilled'
          rfl

theorem dispatchesIn_cue {cue : Cue} {moment : Moment} :
    stage.DispatchesIn state [.call (.cue cue)] moment ↔ ∃ outset count,
      stage.Outset state cue outset ∧ count < stage.settings.maxSteps ∧
        stage.Goes count ⟨outset, none⟩ moment := by
  constructor
  · intro dispatches
    cases dispatches with
    | now walks early goes => exact ⟨_, _, walks, early, goes⟩
    | later dispatches => cases dispatches
  · rintro ⟨outset, count, walks, early, goes⟩
    exact .now walks early goes

/-- A call records what is noted down at its dispatches and nothing else. -/
theorem play_told_iff (stage : Stage) (state : State) (cue : Cue) :
    ∃ told, stage.Told state (stage.play state cue).1 told ∧
      ∀ notice, notice ∈ told ↔ ∃ moment,
        stage.DispatchesIn state [.call (.cue cue)] moment ∧
          stage.noted? moment.state moment.inline = some notice := by
  simp only [dispatchesIn_cue]
  by_cases walking : ∃ outset, stage.Outset state cue outset
  · obtain ⟨outset, walks⟩ := walking
    obtain ⟨told, walked, whence⟩ := stage.walk_told_iff stage.settings.maxSteps ⟨outset, none⟩
    refine ⟨told, ?_, fun notice => ?_⟩
    · rw [walks.play]
      exact walks.nothing_told.trans walked
    · rw [whence]
      constructor
      · rintro ⟨count, middle, early, goes, noted⟩
        exact ⟨middle, ⟨outset, count, walks, early, goes⟩, noted⟩
      · rintro ⟨middle, ⟨other, count, walksToo, early, goes⟩, noted⟩
        cases walks.unique walksToo
        exact ⟨count, middle, early, goes, noted⟩
  · rcases stage.outset_or_still state cue with walks | still
    · exact absurd walks walking
    · refine ⟨[], (still stage rfl).2, fun notice => ⟨nofun, ?_⟩⟩
      rintro ⟨_, ⟨outset, _, walks, _⟩, _⟩
      exact absurd ⟨outset, walks⟩ walking

theorem noted?_eq_unrecognized_iff {kind : String} {place : Cursor} :
    stage.noted? state inline = some (.unrecognizedItem kind place) ↔
      ∃ item, stage.next? state inline = some item ∧ item.action = .skip kind ∧
        place = state.cursor := by
  constructor
  · intro noted
    rcases noted?_cases noted with
      ⟨item, test, body, _, _, tested⟩ | ⟨item, _, next, action, same⟩
    · unfold Test.notice? at tested
      split at tested
      · cases tested
      · split at tested
        · cases tested
        · split at tested <;> cases tested
    · cases same
      exact ⟨item, next, action, rfl⟩
  · rintro ⟨item, next, action, rfl⟩
    exact noted?_of_skip next action

end Stage

namespace Scene

/-- In a call after any run from a start, with failed calls and changes of the story among the
deeds: a notice of an item that is not understood is recorded exactly if such an item is dispatched
with the cursor at the named place. The item itself stands at its place, bare or wrapped, and the
cursor is there exactly if the item is bare. -/
theorem skipped_items_told_at_cursor (stage : Stage) (knot : String) (state : State)
    (started : stage.start knot = .ok state) (deeds : List Deed) (cue : Cue) :
    let now := (Scene.mk stage state).run deeds
    let dispatches := now.stage.DispatchesIn now.state [.call (.cue cue)]
    ∃ told, now.stage.Told now.state (now.stage.play now.state cue).1 told ∧
      (∀ kind place, .unrecognizedItem kind place ∈ told ↔ ∃ moment item, dispatches moment ∧
        now.stage.next? moment.state moment.inline = some item ∧ item.action = .skip kind ∧
          place = moment.state.cursor) ∧
      ∀ moment item, dispatches moment →
        now.stage.next? moment.state moment.inline = some item →
          now.stage.story.Holds moment.place.knot moment.place.position moment.inline.isSome item ∧
            (moment.state.cursor = moment.place ↔ moment.inline = none) := by
  obtain ⟨_, rfl⟩ := Stage.start_eq_ok.mp started
  intro now dispatches
  have counted : now.state.Counted := run_counted (State.counted_opening knot) deeds
  obtain ⟨told, recorded, whence⟩ := now.stage.play_told_iff now.state cue
  refine ⟨told, recorded, fun kind place => ?_, fun moment item dispatched next => ?_⟩
  · simp only [whence, Stage.noted?_eq_unrecognized_iff, exists_and_left, dispatches]
  · obtain ⟨outset, count, walks, _, goes⟩ := Stage.dispatchesIn_cue.mp dispatched
    have wrapped := goes.wrapped (Stage.wrapped_outset (walks.counted counted))
    exact ⟨wrapped.holds_place next, wrapped.cursor_eq_place_iff⟩

/-- An item behind a condition stands at the first place and is told of at the second. -/
theorem skipped_items_told_at_cursor_behind_condition :
    let image : Item := .unrecognized "image" .nil
    let stage := Stage.ofKnots [("start", [.unlessSet "mood" image])]
    let moment : Moment := ⟨(State.opening "start").moveOn, some image⟩
    stage.start "start" = .ok (.opening "start") ∧
      (∃ told, stage.Told (.opening "start") (stage.advance (.opening "start")).1 told ∧
        .unrecognizedItem "image" ⟨"start", 2⟩ ∈ told) ∧
      stage.story.Holds "start" 1 true image ∧ moment.state.cursor ≠ moment.place := by
  intro image stage moment
  have started : stage.start "start" = .ok (.opening "start") := rfl
  have moves : stage.Moves ⟨.opening "start", none⟩ moment := rfl
  have dispatched : stage.DispatchesIn (.opening "start") [.call (.cue .advance)] moment :=
    .now (.onward rfl) (by decide) (.next moves .start)
  obtain ⟨told, recorded, whence, places⟩ :=
    skipped_items_told_at_cursor stage "start" _ started [] .advance
  obtain ⟨held, place⟩ := places moment image dispatched rfl
  refine ⟨started, ⟨told, recorded, ?_⟩, held, ?_⟩
  · exact (whence "image" ⟨"start", 2⟩).mpr ⟨moment, image, dispatched, rfl, rfl, rfl⟩
  · intro same
    cases place.mp same

/-- That notice names no place of the story at all. -/
theorem skipped_items_not_always_told_at_place :
    ¬ ∀ (stage : Stage) (knot : String) (state : State), stage.start knot = .ok state →
      ∀ (deeds : List Deed) (cue : Cue) (told : List Notice),
        let now := (Scene.mk stage state).run deeds
        now.stage.Told now.state (now.stage.play now.state cue).1 told →
          ∀ kind place, .unrecognizedItem kind place ∈ told → ∃ inline item,
            now.stage.story.Holds place.knot place.position inline item ∧
              item.action = .skip kind := by
  intro named
  let stage := Stage.ofKnots [("start", [.unlessSet "mood" (.unrecognized "image" .nil)])]
  let told : List Notice := [.unrecognizedItem "image" ⟨"start", 2⟩]
  have recorded : stage.Told (.opening "start") (stage.advance (.opening "start")).1 told :=
    ⟨rfl, rfl, nofun⟩
  obtain ⟨_, _, ⟨items, _, found, _, inside, _⟩, _⟩ :=
    named stage "start" (.opening "start") rfl [] .advance told recorded _ _ List.mem_cons_self
  cases found
  exact absurd inside (by decide)

end Scene

end StoryGraph
