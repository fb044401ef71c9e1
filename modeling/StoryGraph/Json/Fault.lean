/-!
Why a text is not a JSON document, and where. A place is a count of characters
before it; for readers it is also told as a line and a column.
-/

set_option autoImplicit false

namespace StoryGraph.Json

inductive Cause where
  | value
  | name
  | colon
  | comma
  | unterminatedString
  | controlCharacter
  | escape
  | unicodeEscape
  | extraData
  | byteOrderMark
  deriving DecidableEq, Repr

def Cause.reason : Cause → String
  | .value => "Expecting value"
  | .name => "Expecting property name enclosed in double quotes"
  | .colon => "Expecting ':' delimiter"
  | .comma => "Expecting ',' delimiter"
  | .unterminatedString => "Unterminated string starting at"
  | .controlCharacter => "Invalid control character at"
  | .escape => "Invalid \\escape"
  | .unicodeEscape => "Invalid \\uXXXX escape"
  | .extraData => "Extra data"
  | .byteOrderMark => "Unexpected UTF-8 BOM (decode using utf-8-sig)"

/-- A refusal as the reader finds it: the place is told by the text from there on. -/
inductive Refusal where
  | malformed (cause : Cause) (rest : List Char)
  | longInteger (digits : Nat)
  deriving DecidableEq, Repr

inductive Fault where
  | malformed (cause : Cause) (place line column : Nat)
  | longInteger (digits : Nat)
  deriving DecidableEq, Repr

def Fault.message : Fault → String
  | .malformed cause place line column =>
      s!"{cause.reason}: line {line} column {column} (char {place})"
  | .longInteger digits =>
      "Exceeds the limit (4300 digits) for integer string conversion: " ++
        s!"value has {digits} digits; use sys.set_int_max_str_digits() to increase the limit"

/-- The line that a text ends in; the first line is one. -/
def lineAfter (before : List Char) : Nat := before.count '\n' + 1

/-- The column after a text; the first column of a line is one. -/
def columnAfter (before : List Char) : Nat :=
  (before.reverse.takeWhile fun character => character ≠ '\n').length + 1

def Refusal.locate (text : List Char) : Refusal → Fault
  | .malformed cause rest =>
      let place := text.length - rest.length
      let before := text.take place
      .malformed cause place (lineAfter before) (columnAfter before)
  | .longInteger digits => .longInteger digits

end StoryGraph.Json
