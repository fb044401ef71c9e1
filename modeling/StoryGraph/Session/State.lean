import StoryGraph.Session.Notice

/-!
The state of a session and what surrounds it. The stage (the story, the settings
and the listener) stays as it is while a session runs over it; the state is
where the session stands and what it has noted down.
-/

set_option autoImplicit false

namespace StoryGraph

/-- An option that was taken, and where. Options count from one. -/
structure ChoiceRecord where
  knot : String
  position : Nat
  option : Nat
  deriving DecidableEq, Repr

structure Ledger where
  visits : Table Nat
  choices : Array ChoiceRecord
  deriving DecidableEq

namespace Ledger

def empty : Ledger := ⟨.empty, #[]⟩

def visitCount (ledger : Ledger) (knot : String) : Nat := (ledger.visits.get? knot).getD 0

def recordVisit (ledger : Ledger) (knot : String) : Ledger :=
  { ledger with visits := ledger.visits.insert knot (ledger.visitCount knot + 1) }

def recordChoice (ledger : Ledger) (record : ChoiceRecord) : Ledger :=
  { ledger with choices := ledger.choices.push record }

@[simp] theorem visitCount_recordVisit (ledger : Ledger) (knot other : String) :
    (ledger.recordVisit knot).visitCount other =
      if other = knot then ledger.visitCount knot + 1 else ledger.visitCount other := by
  unfold recordVisit visitCount
  simp only [Table.get?_insert]
  split <;> rfl

end Ledger

/-- A choice that was shown and waits for an answer. A choice reached through a
condition is inline: the cursor stands behind the condition already. -/
structure Pending where
  choice : Choice
  knot : String
  position : Nat
  inline : Bool

structure State where
  cursor : Cursor
  bindings : Table Scalar
  ledger : Ledger
  pending : Option Pending
  notices : Array Notice
  heard : Array Notice
  log : Array LogLine

namespace State

/-- The value of a variable; one that was never set is nil. -/
def read (state : State) (name : String) : Scalar := (state.bindings.get? name).getD .nil

def moveTo (state : State) (position : Nat) : State :=
  { state with cursor := { state.cursor with position } }

def moveOn (state : State) : State := state.moveTo (state.cursor.position + 1)

def write (state : State) (name : String) (value : Scalar) : State :=
  { state with bindings := state.bindings.insert name value }

def writeLog (state : State) (line : LogLine) : State :=
  { state with log := state.log.push line }

end State

/-- The most dispatches of one call, and whether a test that asks for order where
there is none stops it. -/
structure Settings where
  maxSteps : Nat
  strictTypes : Bool
  positive : 0 < maxSteps := by decide
  deriving DecidableEq

def Settings.standard : Settings := ⟨1000, false, by decide⟩

def Settings.ofInt? (maxSteps : Int) (strictTypes : Bool) : Option Settings :=
  if positive : 0 < maxSteps then some ⟨maxSteps.toNat, strictTypes, by omega⟩ else none

/-- One who is told every notice and may refuse to go on, given what came before. -/
structure Listener where
  refuses : Array Notice → Notice → Bool

structure Stage where
  story : Story
  settings : Settings
  listener : Option Listener

inductive Event where
  | line (line : Line)
  | choice (prompt : Option String) (labels : List String)
  | theEnd
  deriving DecidableEq, Repr

def Event.ofChoice (choice : Choice) : Event := .choice choice.prompt choice.labels

inductive Fault where
  | nonPositiveBudget
  | unknownStart (knot : String)
  | unknownDivert (target : String)
  | noPendingChoice
  | invalidChoice (index : String) (knot : String) (options : Nat)
  /-- An index for which there is no option and no text either. -/
  | unprintableIndex
  | navigationLoop (maxSteps : Nat) (place : Cursor)
  | invalidValue (name : String) (typeName : String)
  | typeMismatch (name : String) (mismatch : Mismatch)
  | noOptions
  | refused (notice : Notice)

def Fault.message : Fault → String
  | .nonPositiveBudget => "max_steps must be a positive integer."
  | .unknownStart knot => s!"Start knot '{knot}' not found in story data."
  | .unknownDivert target => s!"Divert target '{target}' not found."
  | .noPendingChoice => "Current content is not a choice."
  | .invalidChoice index knot options =>
      s!"Invalid choice index {index} for choice in knot '{knot}' with {options} option(s)."
  | .unprintableIndex => digitLimitMessage
  | .navigationLoop maxSteps place =>
      s!"Exceeded {maxSteps} steps without reaching presentable content " ++
        s!"(stopped in knot '{place.knot}' at position {place.position})."
  | .invalidValue name typeName =>
      s!"Variable '{name}' must be a string, number, boolean or None; got {typeName}."
  | .typeMismatch name mismatch => s!"Condition on '{name}': {mismatch.message}"
  | .noOptions => "Choice has no options to select."
  | .refused notice => notice.code

end StoryGraph
