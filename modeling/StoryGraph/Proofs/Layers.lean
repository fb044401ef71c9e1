import StoryGraph.Proofs.Places

/-!
The items of a story with those that conditions wrap. An item has layers: itself and, if it
is a condition, the layers of its body. A walk dispatches nothing else: the item of a
dispatch is a layer of the story, and a layer of the knot that the walk is in.
-/

set_option autoImplicit false

namespace StoryGraph

/-- An item and those wrapped in it. -/
def Item.layers : Item → List Item
  | .condition test body => .condition test body :: body.layers
  | item => [item]

namespace Story

/-- All items of a story, bare and wrapped. -/
def layers (story : Story) : List Item :=
  story.entries.flatMap fun entry => entry.2.flatMap Item.layers

/-- All items of a knot, bare and wrapped. -/
def layersAt (story : Story) (knot : String) : List Item :=
  ((story.get? knot).getD []).flatMap Item.layers

end Story

theorem Item.mem_layers_self (item : Item) : item ∈ item.layers := by
  cases item <;> simp [layers]

theorem Item.mem_layers_body {outer : Item} {test : Test} {body : Item}
    (layer : .condition test body ∈ outer.layers) : body ∈ outer.layers := by
  induction outer with
  | condition outerTest inner inductionHypothesis =>
      rw [layers, List.mem_cons] at layer ⊢
      right
      rcases layer with same | deeper
      · cases same
        exact body.mem_layers_self
      · exact inductionHypothesis deeper
  | _ => simp [layers] at layer

theorem Item.Wraps.mem_layers {outer inner : Item} (wraps : outer.Wraps inner) :
    inner ∈ outer.layers := by
  induction wraps with
  | @body test body => exact List.mem_cons_of_mem _ body.mem_layers_self
  | deeper _ inductionHypothesis => exact List.mem_cons_of_mem _ inductionHypothesis

namespace Story

variable {story : Story} {knot : String} {items : List Item}

theorem mem_layers (found : story.get? knot = some items) {item layer : Item}
    (member : item ∈ items) (within : layer ∈ item.layers) : layer ∈ story.layers :=
  List.mem_flatMap.mpr ⟨_, Table.mem_of_valueOf? found,
    List.mem_flatMap.mpr ⟨item, member, within⟩⟩

theorem mem_layers_body {test : Test} {body : Item}
    (layer : .condition test body ∈ story.layers) : body ∈ story.layers := by
  obtain ⟨entry, member, inEntry⟩ := List.mem_flatMap.mp layer
  obtain ⟨item, itemMember, within⟩ := List.mem_flatMap.mp inEntry
  exact List.mem_flatMap.mpr ⟨entry, member,
    List.mem_flatMap.mpr ⟨item, itemMember, Item.mem_layers_body within⟩⟩

theorem mem_layersAt (found : story.get? knot = some items) {item layer : Item}
    (member : item ∈ items) (within : layer ∈ item.layers) : layer ∈ story.layersAt knot := by
  rw [layersAt, found, Option.getD_some]
  exact List.mem_flatMap.mpr ⟨item, member, within⟩

/-- What stands at a place of a knot, bare or wrapped, is a layer of the knot. -/
theorem Holds.mem_layersAt {position : Nat} {inline : Bool} {item : Item}
    (held : story.Holds knot position inline item) : item ∈ story.layersAt knot := by
  obtain ⟨items, outer, found, _, _, here, holds⟩ := held
  apply Story.mem_layersAt found (List.mem_of_getElem? here)
  cases inline with
  | true => exact Item.Wraps.mem_layers holds
  | false =>
      cases holds
      exact item.mem_layers_self

end Story

namespace Stage

variable {stage : Stage} {state : State} {inline : Option Item} {item : Item}

@[simp] theorem knot_past (state : State) (inline : Option Item) :
    (past state inline).cursor.knot = state.cursor.knot := by
  cases inline <;> rfl

theorem mem_layers_of_next (layered : ∀ inner, inline = some inner → inner ∈ stage.story.layers)
    (next : stage.next? state inline = some item) : item ∈ stage.story.layers := by
  cases inline with
  | some inner =>
      cases next
      exact layered item rfl
  | none =>
      rw [next?_bare, Story.itemAt?_eq_some] at next
      obtain ⟨items, found, here⟩ := next
      exact Story.mem_layers found (List.mem_of_getElem? here) item.mem_layers_self

/-- What a condition leads to is a layer of the story, as the condition is. -/
theorem mem_layers_of_decide {test : Test} {body : Option Item} {holds : Bool} {inner : Item}
    (layer : item ∈ stage.story.layers) (action : item.action = .decide test body)
    (led : (if holds then body else none) = some inner) : inner ∈ stage.story.layers := by
  obtain ⟨wrapped, rfl, rfl⟩ := Item.eq_condition_of_action action
  cases holds with
  | false => cases led
  | true =>
      cases Item.eq_of_present? led
      exact Story.mem_layers_body layer

theorem Moves.layered {moment next : Moment} (moves : stage.Moves moment next)
    (layered : ∀ inner, moment.inline = some inner → inner ∈ stage.story.layers) :
    ∀ inner, next.inline = some inner → inner ∈ stage.story.layers := by
  cases moves.rules with
  | goTo => nofun
  | assign => nofun
  | skip => nofun
  | decide next action _ =>
      intro inner led
      exact mem_layers_of_decide (mem_layers_of_next layered next) action led

/-- The item of a dispatch is a layer of the knot that the walk is in. -/
theorem mem_layersAt_of_next (placed : Moment.InPlace stage.story ⟨state, inline⟩)
    (next : stage.next? state inline = some item) :
    item ∈ stage.story.layersAt state.cursor.knot := by
  have held := placed.holds_past next
  rw [knot_past] at held
  exact held.mem_layersAt

end Stage

end StoryGraph
