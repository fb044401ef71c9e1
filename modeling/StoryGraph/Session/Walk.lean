import StoryGraph.Session.State

/-!
Walking a story. `step` dispatches one item, at the cursor or inline from a
condition that held; `walk` steps until there is something to show or a step
fails, within a budget of dispatches. What a step did before it failed stays
done.

A call gives back the new state and an answer or a fault.
-/

set_option autoImplicit false

namespace StoryGraph

abbrev Outcome (α : Type) := State × Except Fault α

def Outcome.andThen {α β : Type} (outcome : Outcome α) (next : State → α → Outcome β) :
    Outcome β :=
  match outcome with
  | (state, .ok answer) => next state answer
  | (state, .error fault) => (state, .error fault)

inductive Step where
  /-- Another dispatch, of an inline item if there is one. -/
  | more (inline : Option Item)
  | done (event : Event)

namespace Stage

/-- Note a problem down, log it and tell the listener, in this order. -/
def report (stage : Stage) (state : State) (notice : Notice) : Outcome Unit :=
  let state := { state with notices := state.notices.push notice }.writeLog (.noticed notice)
  match stage.listener with
  | none => (state, .ok ())
  | some listener =>
      let told := { state with heard := state.heard.push notice }
      if listener.refuses state.heard notice then (told, .error (.refused notice))
      else (told, .ok ())

/-- Set a variable. Only scalars are stored. -/
def assign (_stage : Stage) (state : State) (name : String) (value : Value) : Outcome Unit :=
  match value.scalar? with
  | some scalar => (state.write name scalar, .ok ())
  | none => (state, .error (.invalidValue name value.typeName))

def assignAll (stage : Stage) (state : State) : List (String × Value) → Outcome Unit
  | [] => (state, .ok ())
  | (name, value) :: rest =>
      (stage.assign state name value).andThen fun state _ => stage.assignAll state rest

def divertTo (stage : Stage) (state : State) (target : String) : Outcome Unit :=
  if stage.story.contains target then
    let ledger := state.ledger.recordVisit target
    let state := { state with ledger, cursor := ⟨target, 1⟩ }
    (state.writeLog (.diverted target (ledger.visitCount target)), .ok ())
  else (state, .error (.unknownDivert target))

/-- Whether a test holds. Something that is no operator is reported and does not
hold; nor does a test for order where there is none, unless types are strict. -/
def evaluate (stage : Stage) (state : State) (test : Test) : Outcome Bool :=
  match test.operator.resolve with
  | .error unknown =>
      (stage.report state (.unknownOperator test.name unknown)).andThen
        fun state _ => (state, .ok false)
  | .ok comparison =>
      match comparison.holds (.scalar (state.read test.name)) test.operand with
      | .ok answer => (state, .ok answer)
      | .error mismatch =>
          if stage.settings.strictTypes then (state, .error (.typeMismatch test.name mismatch))
          else
            (stage.report state (.typeMismatch test.name mismatch)).andThen
              fun state _ => (state, .ok false)

/-- The item to dispatch: the inline one, else the one at the cursor. -/
def next? (stage : Stage) (state : State) (inline : Option Item) : Option Item :=
  inline.or (stage.story.itemAt? state.cursor.knot state.cursor.position)

/-- The state past the item at the cursor; an inline item does not stand there. -/
def past (state : State) (inline : Option Item) : State :=
  match inline with
  | none => state.moveOn
  | some _ => state

def present (state : State) (inline : Option Item) (choice : Choice) : State :=
  let position :=
    match inline with
    | none => state.cursor.position
    | some _ => state.cursor.position - 1
  { state with pending := some ⟨choice, state.cursor.knot, position, inline.isSome⟩ }

def step (stage : Stage) (state : State) (inline : Option Item) : Outcome Step :=
  match stage.next? state inline with
  | none => (state, .ok (.done .theEnd))
  | some item =>
      match item.action with
      | .say line => (past state inline, .ok (.done (.line line)))
      | .ask choice => (present state inline choice, .ok (.done (.ofChoice choice)))
      | .goTo target =>
          (stage.divertTo state target).andThen fun state _ => (state, .ok (.more none))
      | .assign name value =>
          (stage.assign state name value).andThen fun state _ =>
            (past state inline, .ok (.more none))
      | .decide test body =>
          (stage.evaluate (past state inline) test).andThen fun state holds =>
            (state, .ok (.more (if holds then body else none)))
      | .skip kind =>
          (stage.report state (.unrecognizedItem kind state.cursor)).andThen fun state _ =>
            (past state inline, .ok (.more none))

/-- Dispatch items until there is something to show, at most `budget` of them. -/
def walk (stage : Stage) : Nat → State → Option Item → Outcome Event
  | 0, state, _ => (state, .error (.navigationLoop stage.settings.maxSteps state.cursor))
  | budget + 1, state, inline =>
      (stage.step state inline).andThen fun state next =>
        match next with
        | .more inline => stage.walk budget state inline
        | .done event => (state, .ok event)

end Stage

end StoryGraph
