import StoryGraph.Comparison

/-!
The content of a story. A story names knots, and a knot is a row of items: lines
to show, choices to make, diverts to other knots, settings of variables, and
conditions that wrap another item. A plain value can stand where an item
belongs; a string is then a line without a speaker, and anything else is not
understood. What is not understood is told by its kind and skipped.

`Item.action` says what an item asks for; different spellings of one thing ask
for the same.
-/

set_option autoImplicit false

namespace StoryGraph

structure Line where
  body : String
  speaker : Option String
  tags : List String
  deriving DecidableEq, Repr

def Line.ofBody (body : String) : Line := ⟨body, none, []⟩

/-- An option of a choice: a label alone, or a label with a target to divert to and
variables to set, in order. -/
inductive ChoiceOption where
  | bare (label : String)
  | full (label : String) (target : Option String) (assignments : Option (Table Value))

namespace ChoiceOption

def label : ChoiceOption → String
  | .bare label => label
  | .full label _ _ => label

def target : ChoiceOption → Option String
  | .bare _ => none
  | .full _ target _ => target

def assignments : ChoiceOption → List (String × Value)
  | .bare _ => []
  | .full _ _ none => []
  | .full _ _ (some assignments) => assignments.entries

end ChoiceOption

structure Choice where
  prompt : Option String
  options : List ChoiceOption

def Choice.labels (choice : Choice) : List String := choice.options.map ChoiceOption.label

structure Test where
  name : String
  operator : Operator
  operand : Value

inductive Item where
  | plain (value : Value)
  | line (line : Line)
  | choice (choice : Choice)
  | divert (target : String)
  | set (name : String) (value : Value)
  | condition (test : Test) (body : Item)
  | unrecognized (kind : String) (data : Value)

inductive Action where
  | say (line : Line)
  | ask (choice : Choice)
  | goTo (target : String)
  | assign (name : String) (value : Value)
  /-- Go on with the body, if there is one and the test holds. -/
  | decide (test : Test) (body : Option Item)
  | skip (kind : String)

namespace Item

/-- A line of narration, written as a string alone. -/
def bare (body : String) : Item := .plain (.string body)

/-- The item itself, if it is one: a plain nil stands for no item. -/
def present? : Item → Option Item
  | .plain (.scalar .nil) => none
  | item => some item

def action : Item → Action
  | .plain (.scalar (.string body)) => .say (.ofBody body)
  | .plain value => .skip value.typeName
  | .line spoken => .say spoken
  | .choice offered => .ask offered
  | .divert target => .goTo target
  | .set name value => .assign name value
  | .condition test body => .decide test body.present?
  | .unrecognized kind _ => .skip kind

end Item

abbrev Story := Table (List Item)

namespace Story

/-- The item at a place of a knot. Places count from one. -/
def itemAt? (story : Story) (knot : String) (position : Nat) : Option Item := do
  let items ← story.get? knot
  items[position - 1]?

end Story

end StoryGraph
