import StoryGraph.Number.Basic
import StoryGraph.Number.Shortest
import StoryGraph.Table
import StoryGraph.Text.Numeral
import StoryGraph.Text.Quoted

/-!
Values that stories mention. A scalar is nil, a boolean, a number or a string;
only scalars are stored in variables. Lists and dictionaries of values occur in
files and are carried along.

Inside lists and dictionaries a boolean equals the number zero or one, the
order of a dictionary's entries does not matter, and a list never equals a
dictionary. A value has a text unless it holds a whole number with more digits
than are written.
-/

set_option autoImplicit false

namespace StoryGraph

inductive Kind where
  | nil
  | boolean
  | number
  | string
  deriving DecidableEq, Repr

def Kind.name : Kind → String
  | .nil => "nil"
  | .boolean => "boolean"
  | .number => "number"
  | .string => "string"

inductive Scalar where
  | nil
  | boolean (value : Bool)
  | number (value : Number)
  | string (value : String)
  deriving DecidableEq, Repr

def Scalar.kind : Scalar → Kind
  | .nil => .nil
  | .boolean _ => .boolean
  | .number _ => .number
  | .string _ => .string

inductive Value where
  | scalar (value : Scalar)
  | list (items : List Value)
  | dict (entries : List (String × Value))
  deriving BEq, Repr

instance : Inhabited Value := ⟨.scalar .nil⟩

namespace Value

def nil : Value := .scalar .nil

def string (value : String) : Value := .scalar (.string value)

def int (value : Int) : Value := .scalar (.number (.int value))

def boolean (value : Bool) : Value := .scalar (.boolean value)

def ofTable (table : Table Value) : Value := .dict table.entries

def isNil : Value → Bool
  | .scalar .nil => true
  | _ => false

def scalar? : Value → Option Scalar
  | .scalar value => some value
  | _ => none

def kind? (value : Value) : Option Kind := value.scalar?.map Scalar.kind

def typeName : Value → String
  | .scalar .nil => "NoneType"
  | .scalar (.boolean _) => "bool"
  | .scalar (.number (.int _)) => "int"
  | .scalar (.number (.real _)) => "float"
  | .scalar (.string _) => "str"
  | .list _ => "list"
  | .dict _ => "dict"

def label (value : Value) : String :=
  match value.kind? with
  | some kind => kind.name
  | none => value.typeName

end Value

def Scalar.number? : Scalar → Option Number
  | .boolean value => some (.int (if value then 1 else 0))
  | .number value => some value
  | _ => none

/-- Whether two scalars are equal as parts of lists and dictionaries. -/
def Scalar.same (left right : Scalar) : Bool :=
  match left.number?, right.number? with
  | some leftNumber, some rightNumber => leftNumber.same rightNumber
  | none, none => left = right
  | _, _ => false

mutual

def Value.same : Value → Value → Bool
  | .scalar left, .scalar right => left.same right
  | .list left, .list right => sameItems left right
  | .dict left, .dict right => left.length = right.length && sameEntries left right
  | _, _ => false

def sameItems : List Value → List Value → Bool
  | [], [] => true
  | left :: leftRest, right :: rightRest => left.same right && sameItems leftRest rightRest
  | _, _ => false

/-- Whether each of the entries has an equal value under its key among others. -/
def sameEntries : List (String × Value) → List (String × Value) → Bool
  | [], _ => true
  | (key, value) :: rest, others =>
      (match Table.valueOf? key others with
        | some other => value.same other
        | none => false) && sameEntries rest others

end

/-- Why a value has no text: it holds a whole number of too many digits. -/
def digitLimitMessage : String :=
  s!"Exceeds the limit ({Text.digitLimit} digits) for integer string conversion; " ++
    "use sys.set_int_max_str_digits() to increase the limit"

def intText? (value : Int) : Option String :=
  if value.natAbs < Text.numeralEnd then some (toString value) else none

def Scalar.text? : Scalar → Option String
  | .nil => some "None"
  | .boolean value => some (if value then "True" else "False")
  | .number (.int value) => intText? value
  | .number (.real value) => some value.text
  | .string value => some (Text.quoted value)

mutual

def Value.text? : Value → Option String
  | .scalar value => value.text?
  | .list items => (itemTexts? items).map fun texts => "[" ++ ", ".intercalate texts ++ "]"
  | .dict entries =>
      (entryTexts? entries).map fun texts => "\x7b" ++ ", ".intercalate texts ++ "\x7d"

def itemTexts? : List Value → Option (List String)
  | [] => some []
  | item :: rest => do
      let text ← item.text?
      return text :: (← itemTexts? rest)

def entryTexts? : List (String × Value) → Option (List String)
  | [] => some []
  | (key, value) :: rest => do
      let text ← value.text?
      return (Text.quoted key ++ ": " ++ text) :: (← entryTexts? rest)

end

mutual

def Value.depth : Value → Nat
  | .scalar _ => 0
  | .list items => 1 + itemsDepth items
  | .dict entries => 1 + entriesDepth entries

def itemsDepth : List Value → Nat
  | [] => 0
  | item :: rest => max item.depth (itemsDepth rest)

def entriesDepth : List (String × Value) → Nat
  | [] => 0
  | (_, value) :: rest => max value.depth (entriesDepth rest)

end

theorem Value.depth_le_of_mem {key : String} {value : Value} {entries : List (String × Value)}
    (member : (key, value) ∈ entries) : value.depth ≤ entriesDepth entries := by
  induction entries with
  | nil => simp at member
  | cons entry rest inductionHypothesis =>
      obtain ⟨name, held⟩ := entry
      rw [entriesDepth]
      rcases List.mem_cons.mp member with same | member
      · obtain ⟨rfl, rfl⟩ := Prod.mk.inj same
        exact Nat.le_max_left _ _
      · exact Nat.le_trans (inductionHypothesis member) (Nat.le_max_right _ _)

end StoryGraph
