import StoryGraph.Story.Item

/-!
Stories written as values. A story is a dictionary of knots, each a list of
items. Only the shape of the known kinds of items is checked; whatever is of
another kind is kept as it is, for the walk to report when it is reached.
Reading stops at the first problem, and a problem names its place.
-/

set_option autoImplicit false

namespace StoryGraph

inductive Place where
  | knot (name : String)
  | entry (whole : Place) (index : Nat)
  | part (whole : Place) (name : String)
  deriving DecidableEq, Repr

def Place.text : Place → String
  | .knot name => s!"knot '{name}'"
  | .entry whole index => s!"{whole.text}[{index}]"
  | .part whole name => s!"{whole.text} {name}"

inductive Complaint where
  | notObject
  | notString
  | notOptionalString
  | notItemList
  | notOptionalList
  | notList
  | notScalar
  | absent
  deriving DecidableEq, Repr

def Complaint.text : Complaint → String
  | .notObject => "must be an object/dict."
  | .notString => "must be a string."
  | .notOptionalString => "must be a string if provided."
  | .notItemList => "must be a list of content items."
  | .notOptionalList => "must be a list if provided."
  | .notList => "must be a list."
  | .notScalar => "must be a string, number, boolean or null."
  | .absent => "is required."

structure Problem where
  place : Place
  complaint : Complaint
  deriving DecidableEq, Repr

def Problem.message (problem : Problem) : String :=
  s!"{problem.place.text} {problem.complaint.text}"

abbrev Members := List (String × Value)

namespace Members

def field (members : Members) (name : String) : Value := (Table.valueOf? name members).getD .nil

/-- The value of the first of two members that is there; nil if neither is. -/
def firstOf (members : Members) (name other : String) : Value :=
  ((Table.valueOf? name members).or (Table.valueOf? other members)).getD .nil

theorem depth_field_le (members : Members) (name : String) :
    (members.field name).depth ≤ entriesDepth members := by
  unfold field
  cases found : Table.valueOf? name members with
  | none => simp [Value.nil, Value.depth]
  | some value => exact Value.depth_le_of_mem (Table.mem_of_valueOf? found)

theorem depth_firstOf_le (members : Members) (name other : String) :
    (members.firstOf name other).depth ≤ entriesDepth members := by
  have second := depth_field_le members other
  unfold firstOf
  unfold field at second
  cases found : Table.valueOf? name members with
  | none => simpa using second
  | some value => simpa using Value.depth_le_of_mem (Table.mem_of_valueOf? found)

end Members

namespace Shape

def string (place : Place) : Value → Except Problem String
  | .scalar (.string text) => .ok text
  | _ => .error ⟨place, .notString⟩

def optionalString (place : Place) : Value → Except Problem (Option String)
  | .scalar .nil => .ok none
  | .scalar (.string text) => .ok (some text)
  | _ => .error ⟨place, .notOptionalString⟩

def scalar (place : Place) : Value → Except Problem Value
  | .scalar value => .ok (.scalar value)
  | _ => .error ⟨place, .notScalar⟩

def tagsFrom (place : Place) (index : Nat) : List Value → Except Problem (List String)
  | [] => .ok []
  | tag :: rest => do
      let tag ← string (.entry place index) tag
      return tag :: (← tagsFrom place (index + 1) rest)

def tags (place : Place) : Value → Except Problem (List String)
  | .scalar .nil => .ok []
  | .list tags => tagsFrom place 0 tags
  | _ => .error ⟨place, .notOptionalList⟩

def line (place : Place) (members : Members) : Except Problem Line := do
  let body ← string (.part place "body") (members.firstOf "body" "content")
  let speaker ← optionalString (.part place "speaker") (members.field "speaker")
  let tags ← tags (.part place "tags") (members.field "tags")
  return ⟨body, speaker, tags⟩

/-- Scalars under the names of the variables that they are for. -/
def scalars (place : Place) : Members → Except Problem (List (String × Value))
  | [] => .ok []
  | (name, value) :: rest => do
      let value ← scalar (.part place s!"set.{name}") value
      return (name, value) :: (← scalars place rest)

def assignments (place : Place) : Value → Except Problem (Option (Table Value))
  | .scalar .nil => .ok none
  | .dict members => do return some (.ofList (← scalars place members))
  | _ => .error ⟨.part place "set", .notObject⟩

def option (place : Place) : Value → Except Problem ChoiceOption
  | .scalar (.string label) => .ok (.bare label)
  | .dict members => do
      let members : Members := members
      let label ← string (.part place "label") (members.field "label")
      let target ← optionalString (.part place "divert") (members.field "divert")
      let assignments ← assignments place (members.field "set")
      return .full label target assignments
  | _ => .error ⟨place, .notObject⟩

def optionsFrom (place : Place) (index : Nat) : List Value → Except Problem (List ChoiceOption)
  | [] => .ok []
  | entry :: rest => do
      let entry ← option (.entry place index) entry
      return entry :: (← optionsFrom place (index + 1) rest)

def options (place : Place) : Value → Except Problem (List ChoiceOption)
  | .list entries => optionsFrom place 0 entries
  | _ => .error ⟨place, .notList⟩

def choice (place : Place) (members : Members) : Except Problem Choice := do
  let prompt ← optionalString (.part place "prompt") (members.field "prompt")
  let options ← options (.part place "options") (members.field "options")
  return ⟨prompt, options⟩

/-- A setting of a variable. The value has to be there, be it null. -/
def setting (place : Place) (members : Members) : Except Problem Item := do
  match Table.valueOf? "value" members with
  | none => .error ⟨.part place "value", .absent⟩
  | some value =>
      let name ← string (.part place "var") (members.firstOf "var" "variable")
      let value ← scalar (.part place "value") value
      return .set name value

/-- The operator of a condition, equality if none is written. Text that names no
operator is kept, for the walk to report. -/
def operator (place : Place) (members : Members) : Except Problem Operator := do
  match Table.valueOf? "operator" members with
  | none => return .known .equal
  | some written =>
      let text ← string (.part place "operator") written
      match Comparison.ofText? text with
      | some comparison => return .known comparison
      | none => return .written (.string text)

/-- The test of a condition that is known to have a body. -/
def test (place : Place) (members : Members) : Except Problem Test := do
  let operator ← operator place members
  let name ← string (.part place "var") (members.firstOf "var" "variable")
  let operand ← scalar (.part place "value") (members.firstOf "value" "operand")
  return ⟨name, operator, operand⟩

def kindName : Value → String
  | .scalar .nil => "nil"
  | kind => kind.typeName

def item (place : Place) (value : Value) : Except Problem Item :=
  match value with
  | .scalar (.string body) => .ok (.bare body)
  | .dict members =>
      match Members.field members "type" with
      | .scalar (.string kind) =>
          if kind = "text" then (line place members).map .line
          else if kind = "choice" then (choice place members).map .choice
          else if kind = "divert" then
            (string (.part place "target") (Members.field members "target")).map .divert
          else if kind = "set" then setting place members
          else if kind = "condition" then
            if (Members.firstOf members "then" "content").isNil then
              .error ⟨.part place "content", .absent⟩
            else
              match test place members with
              | .error problem => .error problem
              | .ok test =>
                  (item (.part place "content") (Members.firstOf members "then" "content")).map
                    (.condition test)
          else .ok (.unrecognized kind (.dict (members.filter fun member => member.1 ≠ "type")))
      | kind => .ok (.unrecognized (kindName kind) (.dict members))
  | value => .ok (.unrecognized value.typeName (.dict [("value", value)]))
termination_by value.depth
decreasing_by
  have := Members.depth_firstOf_le members "then" "content"
  rw [Value.depth]
  omega

def itemsFrom (place : Place) (index : Nat) : List Value → Except Problem (List Item)
  | [] => .ok []
  | entry :: rest => do
      let entry ← item (.entry place index) entry
      return entry :: (← itemsFrom place (index + 1) rest)

def knot (name : String) : Value → Except Problem (List Item)
  | .list entries => itemsFrom (.knot name) 0 entries
  | _ => .error ⟨.knot name, .notItemList⟩

def knots : Members → Except Problem (List (String × List Item))
  | [] => .ok []
  | (name, items) :: rest => do
      let items ← knot name items
      return (name, items) :: (← knots rest)

end Shape

def Story.ofMembers (members : Members) : Except Problem Story :=
  (Shape.knots members).map Table.ofList

end StoryGraph
