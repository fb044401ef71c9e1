import StoryGraph.Session.Walk

/-!
A session from outside. It starts in a knot; `advance` shows the next line or
choice, and `commit` answers a choice that waits. A choice that waits is shown
again until it is answered.
-/

set_option autoImplicit false

namespace StoryGraph.Stage

def start (stage : Stage) (knot : String) : Except Fault State :=
  if stage.story.contains knot then
    .ok {
      cursor := ⟨knot, 1⟩
      bindings := .empty
      ledger := Ledger.empty.recordVisit knot
      pending := none
      notices := #[]
      heard := #[]
      log := #[] }
  else .error (.unknownStart knot)

def walkOn (stage : Stage) (state : State) : Outcome Event :=
  stage.walk stage.settings.maxSteps state none

def advance (stage : Stage) (state : State) : Outcome Event :=
  match state.pending with
  | some pending => (state, .ok (.ofChoice pending.choice))
  | none => stage.walkOn state

/-- The number of an option, if a value is one. Options count from one. -/
def optionNumber? (choice : Choice) : Value → Option Nat
  | .scalar (.number (.int index)) =>
      if 1 ≤ index ∧ index ≤ choice.options.length then some index.toNat else none
  | _ => none

def picked? (choice : Choice) (index : Value) : Option (Nat × ChoiceOption) := do
  let number ← optionNumber? choice index
  let option ← choice.options[number - 1]?
  return (number, option)

def refusal (pending : Pending) (index : Value) : Fault :=
  match index.text? with
  | some text => .invalidChoice text pending.knot pending.choice.options.length
  | none => .unprintableIndex

/-- The state after an option was taken and before anything that it asks for. -/
def settle (state : State) (pending : Pending) (number : Nat) (option : ChoiceOption) : State :=
  let ledger := state.ledger.recordChoice ⟨pending.knot, pending.position, number⟩
  let settled := { state with ledger, pending := none }
  let moved := if pending.inline then settled else settled.moveTo (pending.position + 1)
  moved.writeLog (.committed number option.label pending.knot)

def follow (stage : Stage) (state : State) : Option String → Outcome Unit
  | some target => stage.divertTo state target
  | none => (state, .ok ())

/-- Take an option of the choice that waits: set its variables, go to its target and
walk on. -/
def commit (stage : Stage) (state : State) (index : Value) : Outcome Event :=
  match state.pending with
  | none => (state, .error .noPendingChoice)
  | some pending =>
      match picked? pending.choice index with
      | none => (state, .error (refusal pending index))
      | some (number, option) =>
          (stage.assignAll (settle state pending number option) option.assignments).andThen
            fun state _ => (stage.follow state option.target).andThen
              fun state _ => stage.walkOn state

def hasEnded (stage : Stage) (state : State) : Bool :=
  state.pending.isNone &&
    match stage.story.get? state.cursor.knot with
    | none => true
    | some items => items.length < state.cursor.position

end StoryGraph.Stage
