import StoryGraph.Text.Blank
import StoryGraph.Text.DecimalDigit

/-!
Whole numbers as people type them: blanks around, a sign or none, then decimal
digits of any script, where a single low line may stand between two digits.
At most `digitLimit` digits are read.
-/

set_option autoImplicit false

namespace StoryGraph.Text

/-- The most digits of a whole number that are read or written. -/
def digitLimit : Nat := 4300

/-- The least whole number with more digits than that. -/
def numeralEnd : Nat := Nat.pow 10 digitLimit

/-- Blanks that may surround a numeral: all but the four separators U+001C to U+001F. -/
def isMargin (character : Char) : Bool :=
  isBlank character && !(0x1C ≤ character.toNat && character.toNat ≤ 0x1F)

/-- The digits of a numeral, first digit first. A low line must be followed by a digit,
and what comes before it is a digit wherever this is called after one. -/
def digitsAfter : List Char → Option (List Nat)
  | [] => some []
  | '_' :: character :: rest => do
      let digit ← decimalValue? character
      return digit :: (← digitsAfter rest)
  | character :: rest => do
      let digit ← decimalValue? character
      return digit :: (← digitsAfter rest)

def digits? : List Char → Option (List Nat)
  | [] => none
  | character :: rest => do
      let digit ← decimalValue? character
      return digit :: (← digitsAfter rest)

def ofDecimalDigits (digits : List Nat) : Nat :=
  digits.foldl (fun value digit => 10 * value + digit) 0

def magnitude? (numeral : List Char) : Option Nat := do
  let digits ← digits? numeral
  if digits.length ≤ digitLimit then some (ofDecimalDigits digits) else none

/-- The whole number that a text names, if it names one. -/
def wholeNumber? (text : List Char) : Option Int :=
  match ((text.dropWhile isMargin).reverse.dropWhile isMargin).reverse with
  | '-' :: numeral => (magnitude? numeral).map fun magnitude => -Int.ofNat magnitude
  | '+' :: numeral => (magnitude? numeral).map Int.ofNat
  | numeral => (magnitude? numeral).map Int.ofNat

end StoryGraph.Text
