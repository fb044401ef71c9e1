import Mathlib.Data.List.Permutation
import Mathlib.Data.List.ProdSigma
import Mathlib.Data.List.Sublists
import Mathlib.Data.Set.Finite.Basic
import Mathlib.Order.Preorder.Finite
import StoryGraph.Proofs.Configuration
import StoryGraph.Proofs.Layers
import StoryGraph.Proofs.Retry

/-!
A budget that is large enough tells loops apart. A walk has only finitely many
configurations to go through: it stands in a knot of the story, at an item or just behind
the last, its inline items are parts of the story, and a variable holds what it held
before the walk or what an item sets it to. A walk that does not end therefore comes to
one of them twice, and one that does so does not end. The diverts of a story may form a
circle without a loop, since what a walk sets decides where it goes.
-/

set_option autoImplicit false

namespace StoryGraph

/-- The variable that an item sets, with its value. -/
def Item.setting? : Item → Option (String × Scalar)
  | .set name (.scalar value) => some (name, value)
  | _ => none

namespace Story

/-- Where a walk through a story can stand, up to just behind the last item of a knot. -/
def places (story : Story) : List Cursor :=
  story.entries.flatMap fun entry =>
    (List.range (entry.2.length + 2)).map (Cursor.mk entry.1)

end Story

/-- A configuration that a walk from a state can come to. -/
structure Configuration.Confined (configuration : Configuration) (story : Story)
    (state : State) : Prop where
  cursor : configuration.cursor ∈ state.cursor :: story.places
  inline : ∀ item, configuration.inline = some item → item ∈ story.layers
  bindings : ∀ entry ∈ configuration.bindings.entries,
    entry ∈ state.bindings.entries ++ story.layers.filterMap Item.setting?

theorem Item.setting?_of_action {item : Item} {name : String} {value : Value}
    {scalar : Scalar} (action : item.action = .assign name value)
    (isScalar : value.scalar? = some scalar) : item.setting? = some (name, scalar) := by
  unfold Item.action at action
  split at action <;> cases action
  cases value <;> cases isScalar
  rfl

namespace Story

variable {story : Story} {knot : String} {items : List Item}

theorem mem_places (found : story.get? knot = some items) {position : Nat}
    (inside : position ≤ items.length + 1) : ⟨knot, position⟩ ∈ story.places := by
  refine List.mem_flatMap.mpr ⟨_, Table.mem_of_valueOf? found, ?_⟩
  exact List.mem_map.mpr ⟨position, List.mem_range.mpr (by dsimp only; omega), rfl⟩

end Story

/-- Tables with entries from a list are among finitely many, since a key stands in a table
only once. -/
theorem Table.mem_arrangements {α : Type} (table : Table α) {pool : List (String × α)}
    (within : ∀ entry ∈ table.entries, entry ∈ pool) :
    table.entries ∈ pool.sublists.flatMap List.permutations := by
  have distinct : table.entries.Nodup := table.distinct.of_map
  obtain ⟨chosen, arranged, sublist⟩ := List.subperm_of_subset distinct within
  exact List.mem_flatMap.mpr
    ⟨chosen, List.mem_sublists.mpr sublist, List.mem_permutations.mpr arranged.symm⟩

theorem Configuration.finite_confined (story : Story) (state : State) :
    {configuration : Configuration | configuration.Confined story state}.Finite := by
  let pool := state.bindings.entries ++ story.layers.filterMap Item.setting?
  let code : Configuration → Cursor × Option Item × List (String × Scalar) :=
    fun configuration =>
      (configuration.cursor, configuration.inline, configuration.bindings.entries)
  let codes := (state.cursor :: story.places).product
    ((none :: story.layers.map some).product (pool.sublists.flatMap List.permutations))
  have listed : Set.MapsTo code
      {configuration : Configuration | configuration.Confined story state}
      {arrangement | arrangement ∈ codes} := by
    intro configuration confined
    refine List.pair_mem_product.mpr ⟨confined.cursor, List.pair_mem_product.mpr ⟨?_, ?_⟩⟩
    · cases isInline : configuration.inline with
      | none => exact List.mem_cons_self
      | some item =>
          exact List.mem_cons_of_mem _ (List.mem_map_of_mem (confined.inline item isInline))
    · exact configuration.bindings.mem_arrangements confined.bindings
  have injective : Function.Injective code := by
    rintro ⟨cursor, inline, ⟨entries, _⟩⟩ ⟨otherCursor, otherInline, ⟨otherEntries, _⟩⟩ same
    simp only [code, Prod.mk.injEq] at same
    obtain ⟨rfl, rfl, rfl⟩ := same
    rfl
  exact Set.Finite.of_injOn listed injective.injOn codes.finite_toSet

namespace Stage

variable {stage : Stage} {state : State}

/-- Behind an item the walk stands at a place of the story. -/
theorem place_of_next {current : State} {inline : Option Item} {item : Item}
    (here : current.cursor ∈ state.cursor :: stage.story.places)
    (next : stage.next? current inline = some item) :
    (past current inline).cursor ∈ state.cursor :: stage.story.places := by
  cases inline with
  | some inner => exact here
  | none =>
      rw [next?_bare, Story.itemAt?_eq_some] at next
      obtain ⟨items, found, here⟩ := next
      have inside := (List.getElem?_eq_some_iff.mp here).1
      exact List.mem_cons_of_mem _ (Story.mem_places found (by omega))

theorem Moves.confined {moment next : Moment} (moves : stage.Moves moment next)
    (confined : moment.configuration.Confined stage.story state) :
    next.configuration.Confined stage.story state := by
  have layered := moves.layered confined.inline
  obtain ⟨current, inline⟩ := moment
  cases moves.rules with
  | goTo next action known =>
      obtain ⟨items, found⟩ := Option.isSome_iff_exists.mp known
      refine ⟨?_, layered, confined.bindings⟩
      exact List.mem_cons_of_mem _ (Story.mem_places found (by omega))
  | @assign item name value scalar next action isScalar =>
      have isLayer := mem_layers_of_next confined.inline next
      have behind := place_of_next confined.cursor next
      have sameCursor : (past (current.write name scalar) inline).cursor =
          (past current inline).cursor := cursor_past_congr rfl
      have written : (past (current.write name scalar) inline).bindings =
          current.bindings.insert name scalar := bindings_past _ _
      rw [← sameCursor] at behind
      refine ⟨behind, layered, ?_⟩
      intro entry present
      simp only [Moment.configuration, written] at present
      rcases Table.mem_putEntry present with rfl | earlier
      · apply List.mem_append_right
        exact List.mem_filterMap.mpr ⟨item, isLayer, Item.setting?_of_action action isScalar⟩
      · exact confined.bindings entry earlier
  | @decide item test body after holds next action evaluated =>
      have behind := place_of_next confined.cursor next
      have same := sameCourse_of_evaluate evaluated
      have sameBindings : after.bindings = current.bindings :=
        same.bindings.trans (bindings_past _ _)
      rw [← same.cursor] at behind
      refine ⟨behind, layered, ?_⟩
      simp only [Moment.configuration, sameBindings]
      exact confined.bindings
  | @skip item kind after next action reported =>
      have behind := place_of_next confined.cursor next
      have same := sameCourse_of_report reported
      have sameCursor : (past after inline).cursor = (past current inline).cursor :=
        cursor_past_congr same.cursor
      have sameBindings : (past after inline).bindings = current.bindings :=
        (bindings_past _ _).trans same.bindings
      rw [← sameCursor] at behind
      refine ⟨behind, layered, ?_⟩
      simp only [Moment.configuration, sameBindings]
      exact confined.bindings

/-- A walk that does not end comes to one configuration twice. -/
theorem repeats_of_endless
    (endless : ∀ count, ∃ moment, stage.Goes count ⟨state, none⟩ moment) :
    stage.Repeats state := by
  choose moments goes using endless
  have begins : (Moment.mk state none).configuration.Confined stage.story state :=
    ⟨List.mem_cons_self, by simp [Moment.configuration],
      fun _ present => List.mem_append_left _ present⟩
  have confined : ∀ count, (moments count).configuration ∈
      {configuration : Configuration | configuration.Confined stage.story state} := by
    intro count
    exact (goes count).keeps (fun moment => moment.configuration.Confined stage.story state)
      (fun _ _ moves => moves.confined) begins
  obtain ⟨earlier, later, before, same⟩ := Set.Finite.exists_lt_map_eq_of_forall_mem confined
    (Configuration.finite_confined stage.story state)
  exact ⟨earlier, later, _, _, before, goes earlier, goes later, same⟩

/-- A call with a budget runs out of it. -/
def RunsOut (stage : Stage) (state : State) (budget : Nat) (positive : 0 < budget) : Prop :=
  ∃ steps place, ((stage.withBudget budget positive).advance state).2 =
    .error (.navigationLoop steps place)

theorem Halts.not_loop {moment : Moment} {outcome : Outcome Event}
    (halts : stage.Halts moment outcome) (steps : Nat) (place : Cursor) :
    outcome.2 ≠ .error (.navigationLoop steps place) := by
  obtain ⟨after, answer⟩ := outcome
  rintro rfl
  cases (halts.blocked rfl).2

theorem not_runsOut_of_ends (idle : state.pending = none) {count budget : Nat}
    {outcome : Outcome Event} (ends : stage.Ends count ⟨state, none⟩ outcome)
    (positive : 0 < budget) (enough : count ≤ budget) :
    ¬ stage.RunsOut state budget positive := by
  rintro ⟨steps, place, ranOut⟩
  rw [advance_of_idle idle,
    (stage.walkOn_budgeted budget positive state).within _ _ ends enough] at ranOut
  obtain ⟨_, _, _, _, halts⟩ := ends.last
  exact halts.not_loop steps place ranOut

theorem runsOut_of_endless (idle : state.pending = none)
    (endless : ∀ count outcome, ¬ stage.Ends count ⟨state, none⟩ outcome)
    (budget : Nat) (positive : 0 < budget) : stage.RunsOut state budget positive := by
  obtain ⟨last, _, spent⟩ := (stage.walkOn_budgeted budget positive state).beyond
    fun count outcome ends => absurd ends (endless count outcome)
  exact ⟨budget, last.state.cursor, by simp [idle, spent]⟩

/-- With no choice waiting and a listener that refuses nothing, either every budget that is
large enough is never spent, or the walk repeats a configuration and every budget is. -/
theorem every_budget_spent_iff_repeats (stage : Stage) (unopposed : stage.Unopposed)
    (state : State) (idle : state.pending = none) :
    let stops := ∃ least, ∀ budget positive, least ≤ budget →
      ¬ stage.RunsOut state budget positive
    let loops := stage.Repeats state ∧
      ∀ budget positive, stage.RunsOut state budget positive
    (stops ∨ loops) ∧ ¬ (stops ∧ loops) ∧
      (stage.Repeats state ↔ ∀ budget positive, stage.RunsOut state budget positive) := by
  intro stops loops
  have apart : stops → ¬ ∀ budget positive, stage.RunsOut state budget positive := by
    rintro ⟨least, enough⟩ spent
    exact enough (least + 1) (Nat.succ_pos least) (Nat.le_succ least) (spent _ _)
  by_cases ended : ∃ count outcome, stage.Ends count ⟨state, none⟩ outcome
  · obtain ⟨count, outcome, ends⟩ := ended
    have halting : stops := ⟨count, fun _ positive => not_runsOut_of_ends idle ends positive⟩
    have once : ¬ stage.Repeats state := fun repeats => repeats.not_ends unopposed ends
    exact ⟨.inl halting, fun both => once both.2.1,
      fun repeats => absurd repeats once, fun spent => absurd spent (apart halting)⟩
  · have endless : ∀ count outcome, ¬ stage.Ends count ⟨state, none⟩ outcome :=
      fun count outcome ends => ended ⟨count, outcome, ends⟩
    have spent := runsOut_of_endless idle endless
    have repeats : stage.Repeats state := by
      apply repeats_of_endless
      intro count
      rcases stage.goes_or_ends count ⟨state, none⟩ with goes | ⟨_, _, _, ends⟩
      · exact goes
      · exact absurd ends (endless _ _)
    exact ⟨.inr ⟨repeats, spent⟩, fun both => apart both.1 both.2.2,
      fun _ => spent, fun _ => repeats⟩

/-- A knot that leads to itself is a loop. A circle of diverts is none if it is left once a
variable is set on it. -/
theorem every_budget_spent_iff_repeats_circle :
    let loop := ofKnots [("start", [.divert "start"])]
    let circle := ofKnots [
      ("start", [.unlessSet "seen" (.divert "mark"), .bare "Done."]),
      ("mark", [.set "seen" (.boolean true), .divert "start"])]
    let state : State := .opening "start"
    (∀ budget positive, loop.RunsOut state budget positive) ∧
      ∃ least, ∀ budget positive, least ≤ budget →
        ¬ circle.RunsOut state budget positive := by
  intro loop circle state
  constructor
  · have moves : loop.Moves ⟨state, none⟩ ⟨state.enter "start", none⟩ := rfl
    have repeats : loop.Repeats state :=
      ⟨0, 1, _, _, Nat.zero_lt_one, .start, .next moves .start, rfl⟩
    obtain ⟨_, _, spent⟩ := loop.every_budget_spent_iff_repeats nofun state rfl
    exact spent.mp repeats
  · obtain ⟨halts | ⟨_, spent⟩, _⟩ := circle.every_budget_spent_iff_repeats nofun state rfl
    · exact halts
    · obtain ⟨_, _, ranOut⟩ := spent 9 (by decide)
      have shown : ((circle.withBudget 9 (by decide)).advance state).2 =
          .ok (.line (.ofBody "Done.")) := rfl
      rw [shown] at ranOut
      cases ranOut

end Stage

end StoryGraph
