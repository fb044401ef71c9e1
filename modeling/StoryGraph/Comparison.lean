import StoryGraph.Text.Blank
import StoryGraph.Value

/-!
Comparison of values by six operators. Equality never crosses kinds: a boolean
does not equal a number and nil equals only nil. Order is defined between two
numbers, by their exact values, and between two strings, by code points; any
other pair is a mismatch. With NaN every comparison but "not equal" fails.

An operator is written as a symbol or as a name in letters of either case, with
blanks around it or none.
-/

set_option autoImplicit false

namespace StoryGraph

inductive Comparison where
  | equal
  | notEqual
  | greater
  | less
  | greaterOrEqual
  | lessOrEqual
  deriving DecidableEq, Repr

namespace Comparison

def symbol : Comparison → String
  | .equal => "=="
  | .notEqual => "!="
  | .greater => ">"
  | .less => "<"
  | .greaterOrEqual => ">="
  | .lessOrEqual => "<="

def name : Comparison → String
  | .equal => "EQ"
  | .notEqual => "NE"
  | .greater => "GT"
  | .less => "LT"
  | .greaterOrEqual => "GE"
  | .lessOrEqual => "LE"

def isOrdering : Comparison → Bool
  | .equal | .notEqual => false
  | _ => true

def all : List Comparison := [.equal, .notEqual, .greater, .less, .greaterOrEqual, .lessOrEqual]

/-- The operator with a symbol; `=` and `~=` are second symbols of equality and its negation. -/
def ofSymbol? (text : List Char) : Option Comparison :=
  if text = ['~', '='] then some .notEqual
  else if text = ['='] then some .equal
  else all.find? fun comparison => comparison.symbol.toList = text

/-- The operator with a name in letters of either case. No letter outside ASCII
has a letter of these names as its capital. -/
def ofName? (text : List Char) : Option Comparison :=
  all.find? fun comparison => comparison.name.toList = text.map Char.toUpper

def ofText? (text : String) : Option Comparison :=
  let trimmed := Text.trim text.toList
  (ofSymbol? trimmed).or (ofName? trimmed)

end Comparison

structure Mismatch where
  left : Value
  comparison : Comparison
  right : Value
  deriving Repr

def Mismatch.message (mismatch : Mismatch) : String :=
  s!"Cannot order {mismatch.left.label} against {mismatch.right.label} " ++
    s!"with '{mismatch.comparison.symbol}'."

def Value.equals (left right : Value) : Bool :=
  match left, right with
  | .scalar (.number leftNumber), .scalar (.number rightNumber) => leftNumber.same rightNumber
  | .scalar leftScalar, .scalar rightScalar => leftScalar = rightScalar
  | _, _ => left.same right

namespace Comparison

def ordered (comparison : Comparison) (less same greater : Bool) : Bool :=
  match comparison with
  | .equal => same
  | .notEqual => !same
  | .greater => greater
  | .less => less
  | .greaterOrEqual => greater || same
  | .lessOrEqual => less || same

def holds (comparison : Comparison) (left right : Value) : Except Mismatch Bool :=
  match comparison with
  | .equal => .ok (left.equals right)
  | .notEqual => .ok (!left.equals right)
  | _ =>
      match left, right with
      | .scalar (.number leftNumber), .scalar (.number rightNumber) =>
          .ok (comparison.ordered (leftNumber.less rightNumber) (leftNumber.same rightNumber)
            (rightNumber.less leftNumber))
      | .scalar (.string leftText), .scalar (.string rightText) =>
          .ok (comparison.ordered (leftText < rightText) (leftText = rightText)
            (rightText < leftText))
      | _, _ => .error ⟨left, comparison, right⟩

end Comparison

inductive Operator where
  | known (comparison : Comparison)
  | written (value : Value)
  deriving Repr

structure UnknownOperator where
  value : Value
  deriving Repr

/-- A value without a text is refused for that reason. -/
def UnknownOperator.message (unknown : UnknownOperator) : String :=
  match unknown.value.text? with
  | some text => s!"Unknown comparison operator: {text}"
  | none => digitLimitMessage

def Operator.resolve : Operator → Except UnknownOperator Comparison
  | .known comparison => .ok comparison
  | .written (.scalar (.string text)) =>
      match Comparison.ofText? text with
      | some comparison => .ok comparison
      | none => .error ⟨.string text⟩
  | .written value => .error ⟨value⟩

end StoryGraph
