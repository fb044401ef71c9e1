import Mathlib.Logic.Relation
import StoryGraph.Proofs.Layers

/-!
The graph of a story. A knot diverts to the targets of its diverts and offers the targets of
the options of its choices, bare or wrapped; it leads to both. The graph is read off the
story alone, and a target need not be a knot.

A session goes from knot to knot along the edges of the graph only. What it keeps while it
stays in a knot, and along each edge, it therefore keeps through every run.
-/

set_option autoImplicit false

namespace StoryGraph

/-- No way along edges leads back to where it began. -/
def Acyclic (edge : String → String → Prop) : Prop :=
  ∀ knot, ¬ Relation.TransGen edge knot knot

/-- The names that an item leads to if it is carried out. -/
def Item.targets : Item → List String
  | .divert target => [target]
  | .choice asked => asked.options.filterMap ChoiceOption.target
  | _ => []

theorem Acyclic.mono {smaller larger : String → String → Prop} (acyclic : Acyclic larger)
    (within : ∀ knot target, smaller knot target → larger knot target) : Acyclic smaller :=
  fun knot circle => acyclic knot (Relation.TransGen.mono within knot knot circle)

namespace Story

def Diverts (story : Story) (knot target : String) : Prop :=
  .divert target ∈ story.layersAt knot

def Offers (story : Story) (knot target : String) : Prop :=
  ∃ choice option, .choice choice ∈ story.layersAt knot ∧ option ∈ choice.options ∧
    option.target = some target

def Leads (story : Story) (knot target : String) : Prop :=
  story.Diverts knot target ∨ story.Offers knot target

/-- The names that items lead to, as a list. -/
def targetsOf (items : List Item) : List String :=
  (items.flatMap Item.layers).flatMap Item.targets

/-- The least set of names with a knot in it and, with every knot, all that it leads to. -/
def Reaches (story : Story) (knot : String) : String → Prop :=
  Relation.ReflTransGen story.Leads knot

/-- A property of sessions that is kept within a knot and along the edges of a story. -/
structure Carries (story : Story) (Kept : State → Prop) : Prop where
  stay : ∀ {before after : State}, after.cursor.knot = before.cursor.knot →
    after.ledger.visits = before.ledger.visits → Kept before → Kept after
  enter : ∀ {state : State} {target : String}, story.Leads state.cursor.knot target →
    story.contains target = true → Kept state → Kept (state.enter target)

end Story

theorem Ledger.visitCount_congr {ledger other : Ledger} (same : other.visits = ledger.visits)
    (knot : String) : other.visitCount knot = ledger.visitCount knot := by
  simp only [visitCount, same]

@[simp] theorem State.visitCount_enter (state : State) (target knot : String) :
    (state.enter target).ledger.visitCount knot =
      if knot = target then state.ledger.visitCount target + 1
      else state.ledger.visitCount knot :=
  Ledger.visitCount_recordVisit _ _ _

namespace Story

variable {story : Story} {knot target : String}

@[simp] theorem leads_iff :
    story.Leads knot target ↔ target ∈ targetsOf ((story.get? knot).getD []) := by
  rw [targetsOf, List.mem_flatMap]
  constructor
  · rintro (diverts | ⟨choice, option, layer, offered, towards⟩)
    · exact ⟨.divert target, diverts, List.mem_singleton_self target⟩
    · exact ⟨.choice choice, layer, List.mem_filterMap.mpr ⟨option, offered, towards⟩⟩
  · rintro ⟨item, layer, member⟩
    cases item with
    | divert name =>
        obtain rfl := List.mem_singleton.mp member
        exact .inl layer
    | choice choice =>
        obtain ⟨option, offered, towards⟩ := List.mem_filterMap.mp member
        exact .inr ⟨choice, option, layer, offered, towards⟩
    | _ => cases member

theorem exists_entry_of_leads (leads : story.Leads knot target) :
    ∃ items, (knot, items) ∈ story.entries ∧ target ∈ targetsOf items := by
  rw [leads_iff] at leads
  cases found : story.get? knot with
  | none => simp [found, targetsOf] at leads
  | some items =>
      rw [found] at leads
      exact ⟨items, Table.mem_of_valueOf? found, leads⟩

/-- A story leads nowhere back if a number falls with every target of its items. -/
theorem acyclic_of_falling (height : String → Nat)
    (falls : ∀ entry ∈ story.entries, ∀ target ∈ targetsOf entry.2,
      height target < height entry.1) : Acyclic story.Leads := by
  have lower : ∀ {knot target}, Relation.TransGen story.Leads knot target →
      height target < height knot := by
    intro knot target way
    have falling : ∀ {knot target}, story.Leads knot target → height target < height knot := by
      intro knot target leads
      obtain ⟨items, member, among⟩ := exists_entry_of_leads leads
      exact falls _ member target among
    induction way with
    | single leads => exact falling leads
    | tail _ leads inductionHypothesis =>
        exact Nat.lt_trans (falling leads) inductionHypothesis
  intro knot circle
  exact Nat.lt_irrefl _ (lower circle)

end Story

/-- An option of the choice that waits leads on from the knot that the session is in. -/
theorem State.InPlace.offers {story : Story} {state : State} {index : Value}
    {pending : Pending} {number : Nat} {option : ChoiceOption} {target : String}
    (placed : state.InPlace story) (waiting : state.pending = some pending)
    (picked : Stage.picked? pending.choice index = some (number, option))
    (towards : option.target = some target) : story.Offers state.cursor.knot target := by
  obtain ⟨sameKnot, held, _⟩ := placed.pending pending waiting
  obtain ⟨_, _, present⟩ := Stage.picked?_eq_some.mp picked
  rw [sameKnot] at held
  exact ⟨pending.choice, option, held.mem_layersAt, List.mem_of_getElem? present, towards⟩

namespace Stage

variable {stage : Stage}

/-- A dispatch that leads on stays in its knot or goes along a divert of the knot. -/
theorem Moves.along {moment next : Moment} (moves : stage.Moves moment next)
    (placed : moment.InPlace stage.story) :
    (next.state.cursor.knot = moment.state.cursor.knot ∧
      next.state.ledger.visits = moment.state.ledger.visits) ∨
    ∃ target, stage.story.Diverts moment.state.cursor.knot target ∧
      stage.story.contains target = true ∧ next = ⟨moment.state.enter target, none⟩ := by
  obtain ⟨state, inline⟩ := moment
  cases moves.rules with
  | goTo next action known =>
      have layer := mem_layersAt_of_next placed next
      rw [Item.eq_divert_of_action action] at layer
      exact .inr ⟨_, layer, known, rfl⟩
  | assign =>
      left
      cases inline <;> exact ⟨rfl, rfl⟩
  | decide _ _ evaluated =>
      have same := sameCourse_of_evaluate evaluated
      left
      rw [same.cursor, same.ledger]
      cases inline <;> exact ⟨rfl, rfl⟩
  | skip _ _ reported =>
      have same := sameCourse_of_report reported
      left
      rw [← same.cursor, ← same.ledger]
      cases inline <;> exact ⟨rfl, rfl⟩

theorem Halts.stays {moment : Moment} {outcome : Outcome Event}
    (halts : stage.Halts moment outcome) :
    outcome.1.cursor.knot = moment.state.cursor.knot ∧
      outcome.1.ledger.visits = moment.state.ledger.visits := by
  obtain ⟨state, inline⟩ := moment
  cases halts.rules with
  | theEnd => exact ⟨rfl, rfl⟩
  | say => cases inline <;> exact ⟨rfl, rfl⟩
  | ask => exact ⟨rfl, rfl⟩
  | astray => exact ⟨rfl, rfl⟩
  | unassignable => exact ⟨rfl, rfl⟩
  | undecided _ _ evaluated =>
      have same := sameCourse_of_evaluate evaluated
      rw [same.cursor, same.ledger]
      cases inline <;> exact ⟨rfl, rfl⟩
  | unskipped _ _ reported =>
      have same := sameCourse_of_report reported
      rw [same.cursor, same.ledger]
      exact ⟨rfl, rfl⟩

section Carries

variable {Kept : State → Prop} (carries : stage.story.Carries Kept)

include carries

theorem Goes.carried {count : Nat} {moment last : Moment}
    (goes : stage.Goes count moment last) (placed : moment.InPlace stage.story)
    (kept : Kept moment.state) : Kept last.state := by
  induction goes with
  | start => exact kept
  | next moves _ inductionHypothesis =>
      apply inductionHypothesis (moves.inPlace placed)
      rcases moves.along placed with ⟨sameKnot, sameVisits⟩ | ⟨target, diverts, known, rfl⟩
      · exact carries.stay sameKnot sameVisits kept
      · exact carries.enter (.inl diverts) known kept

theorem walkOn_carried {state : State} (placed : state.InPlace stage.story)
    (idle : state.pending = none) (kept : Kept state) : Kept (stage.walkOn state).1 := by
  have placedHere := placed.outset idle
  have rules := stage.walkOn_rules state
  generalize stage.walkOn state = outcome at rules
  cases rules with
  | ended _ goes halts =>
      obtain ⟨sameKnot, sameVisits⟩ := halts.stays
      exact carries.stay sameKnot sameVisits (goes.carried carries placedHere kept)
  | spent goes => exact goes.carried carries placedHere kept

theorem answered_carried {state after : State} {index : Value} {pending : Pending}
    {number : Nat} {option : ChoiceOption} {answer : Except Fault Unit}
    (placed : state.InPlace stage.story) (waiting : state.pending = some pending)
    (picked : picked? pending.choice index = some (number, option))
    (fulfilled : stage.fulfil (settle state pending number option) option = (after, answer))
    (kept : Kept state) : Kept after := by
  have sameKnot : (settle state pending number option).cursor.knot = state.cursor.knot := by
    simp
  have sameVisits :
      (settle state pending number option).ledger.visits = state.ledger.visits := by
    rw [settle_ledger]
    rfl
  rcases fulfil_cases fulfilled with ⟨bindings, rfl | ⟨target, towards, known, rfl⟩⟩
  · exact carries.stay sameKnot sameVisits kept
  · have offers := placed.offers waiting picked towards
    rw [← sameKnot] at offers
    exact carries.enter (.inr offers) known (carries.stay sameKnot sameVisits kept)

theorem play_carried {state : State} (placed : state.InPlace stage.story) (cue : Cue)
    (kept : Kept state) : Kept (stage.play state cue).1 := by
  have rules := stage.play_rules state cue
  generalize stage.play state cue = outcome at rules
  cases rules with
  | again => exact kept
  | onward idle => exact walkOn_carried carries placed idle kept
  | answer commit =>
      cases commit with
      | idle => exact kept
      | refused => exact kept
      | failed waiting picked unfulfilled =>
          exact answered_carried carries placed waiting picked unfulfilled kept
      | taken waiting picked fulfilled =>
          obtain ⟨placedAfter, idle⟩ := answered_inPlace placed waiting picked fulfilled
          apply walkOn_carried carries placedAfter idle
          exact answered_carried carries placed waiting picked fulfilled kept

theorem after_carried {state : State} (placed : state.InPlace stage.story) (call : Call)
    (kept : Kept state) : Kept (stage.after state call) := by
  cases call with
  | cue cue => exact play_carried carries placed cue kept
  | assign name value =>
      obtain ⟨bindings, assigned⟩ := stage.after_assign state name value
      rw [assigned]
      refine carries.stay ?_ ?_ kept <;> rfl
  | evaluate test =>
      have same := (stage.evaluate_cases state test).1
      exact carries.stay (congrArg Cursor.knot same.cursor) (congrArg Ledger.visits same.ledger)
        kept

/-- What a story carries and the first knot has, every state of its sessions has. -/
theorem Reachable.carried {knot : String} {state : State}
    (reachable : stage.Reachable knot state) (opening : Kept (.opening knot)) :
    Kept state := by
  induction reachable with
  | start started =>
      obtain ⟨_, rfl⟩ := start_eq_ok.mp started
      exact opening
  | call call earlier inductionHypothesis =>
      exact after_carried carries earlier.inPlace call inductionHypothesis

end Carries

end Stage

end StoryGraph
