import Mathlib
import StoryGraph.Proofs.Graph
import StoryGraph.Proofs.Loops

/-!
Walks through a story without circles. Such a walk never comes back to a knot that it left,
so what it has still to do is bounded: the items to come in its knot, and all items of the
knots on the ways from there. This is what lies ahead of it. A dispatch takes at least the
cost of an item off what lies ahead, whether it goes on in the knot, goes inline into a
condition or enters another knot.

With the number of dispatches that an item can take for its cost, what lies ahead bounds
the walk, and a budget above the size of the whole story is never spent.
-/

set_option autoImplicit false

namespace StoryGraph

namespace Item

/-- What a condition leads to if its test holds. -/
def body? : Item → Option Item
  | .condition _ body => body.present?
  | _ => none

/-- The most dispatches that an item takes: its own and, if it is a condition, those of its
body. -/
def size : Item → Nat
  | .condition _ body => (if body.present?.isSome then body.size else 0) + 1
  | _ => 1

end Item

/-- A cost of items: each costs so much at least, and a condition so much more than its
body. -/
structure Priced (cost : Item → Nat) (least : Nat) : Prop where
  each : ∀ item, least ≤ cost item
  body : ∀ item inner, item.body? = some inner → cost inner + least ≤ cost item

theorem Item.priced_size : Priced Item.size 1 where
  each := by
    intro item
    cases item <;> simp [size]
  body := by
    intro item inner isBody
    cases item with
    | condition test body =>
        cases Item.eq_of_present? isBody
        simp only [body?] at isBody
        simp [size, isBody]
    | _ => cases isBody

namespace Story

/-- The cost of all items that stand in knots. -/
def total (story : Story) (cost : Item → Nat) : Nat :=
  (story.entries.map fun entry => (entry.2.map cost).sum).sum

open Classical in
/-- The cost of the items of a knot if it is one of some, else nothing. -/
noncomputable def shareOf (cost : Item → Nat) (chosen : String → Prop)
    (entry : String × List Item) : Nat :=
  if chosen entry.1 then (entry.2.map cost).sum else 0

/-- The cost of the items of some knots. -/
noncomputable def share (story : Story) (cost : Item → Nat) (chosen : String → Prop) : Nat :=
  (story.entries.map (shareOf cost chosen)).sum

/-- The cost of items that are to come in a knot and of every knot on the ways from there. -/
noncomputable def ahead (story : Story) (edge : String → String → Prop) (cost : Item → Nat)
    (knot : String) (items : List Item) : Nat :=
  (items.map cost).sum + story.share cost (Relation.TransGen edge knot)

variable {story : Story} {edge : String → String → Prop} {knot : String}
  {items : List Item}

theorem shareOf_le (cost : Item → Nat) {smaller larger : String → Prop}
    (within : ∀ name, smaller name → larger name) (entry : String × List Item) :
    shareOf cost smaller entry ≤ shareOf cost larger entry := by
  unfold shareOf
  split
  next chosen => rw [if_pos (within _ chosen)]
  next => exact Nat.zero_le _

/-- More knots cost more, and at least by the cost of a knot that was not among them. -/
theorem share_add_le (cost : Item → Nat) {smaller larger : String → Prop}
    (found : story.get? knot = some items) (within : ∀ name, smaller name → larger name)
    (fresh : ¬ smaller knot) (chosen : larger knot) :
    (items.map cost).sum + story.share cost smaller ≤ story.share cost larger := by
  rw [Table.get?] at found
  unfold share
  generalize story.entries = entries at found ⊢
  induction entries with
  | nil => cases found
  | cons entry rest inductionHypothesis =>
      rw [Table.valueOf?] at found
      rw [List.map_cons, List.map_cons, List.sum_cons, List.sum_cons]
      split at found
      next same =>
        cases found
        have skipped : shareOf cost smaller entry = 0 := if_neg (same ▸ fresh)
        have counted : shareOf cost larger entry = (entry.2.map cost).sum :=
          if_pos (same ▸ chosen)
        have tail : (rest.map (shareOf cost smaller)).sum ≤
            (rest.map (shareOf cost larger)).sum :=
          List.sum_le_sum fun other _ => shareOf_le cost within other
        omega
      next =>
        have head := shareOf_le cost within entry
        have tail := inductionHypothesis found
        omega

/-- What lies ahead costs no more than the story. -/
theorem ahead_le_total (cost : Item → Nat) (acyclic : Acyclic edge)
    (found : story.get? knot = some items) {rest : List Item} (part : rest.Sublist items) :
    story.ahead edge cost knot rest ≤ story.total cost := by
  have whole : story.share cost (fun _ => True) = story.total cost :=
    congrArg List.sum (List.map_congr_left fun _ _ => if_pos trivial)
  have fewer : (rest.map cost).sum ≤ (items.map cost).sum :=
    (part.map cost).sum_le_sum fun _ _ => Nat.zero_le _
  calc story.ahead edge cost knot rest
      ≤ (items.map cost).sum + story.share cost (Relation.TransGen edge knot) :=
        Nat.add_le_add_right fewer _
    _ ≤ story.share cost (fun _ => True) :=
        share_add_le cost found (fun _ _ => trivial) (acyclic knot) trivial
    _ = story.total cost := whole

/-- A knot that is entered along an edge lay ahead. -/
theorem ahead_of_edge (cost : Item → Nat) (acyclic : Acyclic edge) {target : String}
    (leads : edge knot target) (found : story.get? target = some items) (rest : List Item) :
    story.ahead edge cost target items + (rest.map cost).sum ≤
      story.ahead edge cost knot rest := by
  have entered : story.ahead edge cost target items ≤
      story.share cost (Relation.TransGen edge knot) :=
    share_add_le cost found (fun _ way => way.head leads) (acyclic target) (.single leads)
  unfold ahead at entered ⊢
  omega

end Story

namespace Stage

variable {stage : Stage}

/-- The first of the items to come is dispatched; what comes next is all of another knot, or
the body of a condition and the rest. -/
theorem Moves.content {moment next : Moment} (moves : stage.Moves moment next)
    (placed : moment.InPlace stage.story) :
    ∃ item rest, stage.story.content moment = item :: rest ∧
      ((∃ target, stage.story.Diverts moment.state.cursor.knot target ∧
          next.state.cursor.knot = target ∧
          stage.story.get? target = some (stage.story.content next)) ∨
        ∃ led : Option Item, next.state.cursor.knot = moment.state.cursor.knot ∧
          stage.story.content next = led.toList ++ rest ∧
          ∀ inner, led = some inner → item.body? = some inner) := by
  obtain ⟨state, inline⟩ := moment
  obtain ⟨_, _, positive, _⟩ := placed.state.cursor
  cases moves.rules with
  | @goTo item target next action known =>
      have layer := mem_layersAt_of_next placed next
      rw [Item.eq_divert_of_action action] at layer
      obtain ⟨items, found⟩ := Option.isSome_iff_exists.mp known
      refine ⟨item, _, content_of_next positive next, .inl ⟨target, layer, rfl, ?_⟩⟩
      rw [found]
      exact congrArg some (Story.upcoming_start found).symm
  | @assign item name value scalar next action isScalar =>
      refine ⟨item, _, content_of_next positive next, .inr ⟨none, knot_past _ _, ?_, nofun⟩⟩
      cases inline <;> rfl
  | @decide item test body after holds next action evaluated =>
      have same := sameCourse_of_evaluate evaluated
      refine ⟨item, _, content_of_next positive next, .inr ⟨if holds then body else none, ?_⟩⟩
      rw [Story.content, same.cursor]
      refine ⟨knot_past _ _, rfl, ?_⟩
      intro inner led
      obtain ⟨wrapped, rfl, rfl⟩ := Item.eq_condition_of_action action
      cases holds with
      | false => cases led
      | true => exact led
  | @skip item kind after next action reported =>
      have same := sameCourse_of_report reported
      refine ⟨item, _, content_of_next positive next, .inr ⟨none, ?_, ?_, nofun⟩⟩
      · simp [same.cursor]
      · rw [Story.content, cursor_past_congr same.cursor]

/-- The cost of what lies ahead at a moment of a walk. -/
noncomputable def ahead (stage : Stage) (edge : String → String → Prop) (cost : Item → Nat)
    (moment : Moment) : Nat :=
  stage.story.ahead edge cost moment.state.cursor.knot (stage.story.content moment)

section ahead

variable {edge : String → String → Prop} {cost : Item → Nat} {least : Nat}
  (acyclic : Acyclic edge)
  (edges : ∀ knot target, stage.story.Diverts knot target → edge knot target)
  (priced : Priced cost least)

include acyclic edges priced

theorem Moves.ahead {moment next : Moment} (moves : stage.Moves moment next)
    (placed : moment.InPlace stage.story) :
    stage.ahead edge cost next + least ≤ stage.ahead edge cost moment := by
  obtain ⟨item, rest, content, goesOn⟩ := moves.content placed
  have enough := priced.each item
  rcases goesOn with ⟨target, diverts, rfl, found⟩ | ⟨led, sameKnot, contentNext, isBody⟩
  · have entered := Story.ahead_of_edge cost acyclic (edges _ _ diverts) found
      (item :: rest)
    simp only [Stage.ahead, content, List.map_cons, List.sum_cons] at entered ⊢
    omega
  · have inward : (led.toList.map cost).sum + least ≤ cost item := by
      cases led with
      | none => simpa using enough
      | some inner => simpa using priced.body item inner (isBody inner rfl)
    simp only [Stage.ahead, Story.ahead, sameKnot, contentNext, content, List.map_append,
      List.sum_append, List.map_cons, List.sum_cons]
    omega

theorem Goes.ahead {count : Nat} {moment last : Moment} (goes : stage.Goes count moment last)
    (placed : moment.InPlace stage.story) :
    stage.ahead edge cost last + count * least ≤ stage.ahead edge cost moment := by
  induction goes with
  | start => simp
  | next moves _ inductionHypothesis =>
      have first := moves.ahead acyclic edges priced placed
      have rest := inductionHypothesis (moves.inPlace placed)
      rw [Nat.succ_mul]
      omega

end ahead

variable {state : State}

/-- A walk through a story without circles takes at most as many dispatches as the story has
size, not counting the last. -/
theorem Goes.le_size (acyclic : Acyclic stage.story.Diverts) {count : Nat} {last : Moment}
    (goes : stage.Goes count ⟨state, none⟩ last) (placed : state.InPlace stage.story)
    (idle : state.pending = none) : count ≤ stage.story.total Item.size := by
  obtain ⟨items, found, _⟩ := placed.cursor
  have content : stage.story.content ⟨state, none⟩ =
      items.drop (state.cursor.position - 1) := by
    simp [Story.content, Story.upcoming, found]
  have spent := goes.ahead acyclic (fun _ _ => id) Item.priced_size (placed.outset idle)
  have whole := Story.ahead_le_total Item.size acyclic found
    (List.drop_sublist (state.cursor.position - 1) items)
  rw [Stage.ahead, Stage.ahead, content] at spent
  dsimp only at spent
  omega

theorem walkOn_not_loop (acyclic : Acyclic stage.story.Diverts)
    (enough : stage.story.total Item.size < stage.settings.maxSteps)
    (placed : state.InPlace stage.story) (idle : state.pending = none) (steps : Nat)
    (place : Cursor) : (stage.walkOn state).2 ≠ .error (.navigationLoop steps place) := by
  have rules := stage.walkOn_rules state
  generalize stage.walkOn state = outcome at rules
  cases rules with
  | ended _ _ halts => exact halts.not_loop steps place
  | spent goes =>
      have tooFew := goes.le_size acyclic placed idle
      omega

/-- Let no knot lead back to itself by diverts, and let the budget of a call be greater than
the dispatches that all items of the story take together. Then in no run from a start, with
failed calls in it, does a call run out of its budget. -/
theorem loop_free_within_size (stage : Stage) (acyclic : Acyclic stage.story.Diverts)
    (enough : 1 + stage.story.total Item.size ≤ stage.settings.maxSteps) (knot : String)
    (state : State) (reachable : stage.Reachable knot state) (cue : Cue) (steps : Nat)
    (place : Cursor) : (stage.play state cue).2 ≠ .error (.navigationLoop steps place) := by
  have placed := reachable.inPlace
  have inTime : stage.story.total Item.size < stage.settings.maxSteps := by omega
  have rules := stage.play_rules state cue
  generalize stage.play state cue = outcome at rules
  cases rules with
  | again =>
      intro spent
      cases spent
  | onward idle => exact walkOn_not_loop acyclic inTime placed idle steps place
  | @answer index outcome commit =>
      cases commit with
      | idle =>
          intro spent
          cases spent
      | @refused pending _ _ =>
          intro spent
          have rejection := refusal_isRejection pending index
          rw [Except.error.inj spent] at rejection
          cases rejection
      | failed _ _ unfulfilled =>
          intro spent
          rcases fulfil_error unfulfilled with ⟨_, _, rfl⟩ | ⟨_, rfl⟩ <;> cases spent
      | taken waiting picked fulfilled =>
          obtain ⟨placedAfter, idle⟩ := answered_inPlace placed waiting picked fulfilled
          exact walkOn_not_loop acyclic inTime placedAfter idle steps place

/-- A story of size four is walked through within five dispatches, and not within four. -/
theorem loop_free_within_size_exactly :
    let story : Story := .ofList [
      ("start", [.unlessSet "mood" (.unlessSet "place" (.divert "hall"))]),
      ("hall", [.set "mood" (.boolean true)])]
    let stage : Stage := ⟨story, ⟨5, false, by decide⟩, none⟩
    let state : State := .opening "start"
    Acyclic stage.story.Diverts ∧ 1 + stage.story.total Item.size = 5 ∧
      stage.Reachable "start" state ∧
      (∀ steps place, (stage.play state .advance).2 ≠ .error (.navigationLoop steps place)) ∧
      (stage.play state .advance).2 = .ok .theEnd ∧
      ((stage.withBudget 4 (by decide)).play state .advance).2 =
        .error (.navigationLoop 4 ⟨"hall", 2⟩) := by
  intro story stage state
  have falls : ∀ entry ∈ stage.story.entries, ∀ target ∈ Story.targetsOf entry.2,
      (if target = "start" then 1 else 0) < if entry.1 = "start" then 1 else 0 := by
    decide +kernel
  have acyclic : Acyclic stage.story.Diverts :=
    (Story.acyclic_of_falling _ falls).mono fun _ _ => .inl
  have size : 1 + stage.story.total Item.size = 5 := by decide +kernel
  have reachable : stage.Reachable "start" state := .start rfl
  refine ⟨acyclic, size, reachable, ?_, rfl, rfl⟩
  intro steps place
  exact stage.loop_free_within_size acyclic (Nat.le_of_eq size) "start" state reachable
    .advance steps place

end Stage

end StoryGraph
