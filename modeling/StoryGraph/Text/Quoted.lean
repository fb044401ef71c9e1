import StoryGraph.Text.Printable

/-!
Quoted texts. A text stands between apostrophes, or between double quotes if it
holds an apostrophe and no double quote. Inside, the mark in use and the
backslash are escaped, line feed, carriage return and tab have letters, and any
other character that is not printable is written by its number in hexadecimal:
two digits below U+0100, four below U+10000 and eight above.
-/

set_option autoImplicit false

namespace StoryGraph.Text

def quoteMark (text : List Char) : Char :=
  if '\'' ∈ text ∧ '"' ∉ text then '"' else '\''

def hexadecimal (width number : Nat) : List Char :=
  let digits := Nat.toDigits 16 number
  List.replicate (width - digits.length) '0' ++ digits

def escapeChar (mark character : Char) : List Char :=
  if character = mark ∨ character = '\\' then ['\\', character]
  else if character = '\n' then ['\\', 'n']
  else if character = '\r' then ['\\', 'r']
  else if character = '\t' then ['\\', 't']
  else if isPrintable character then [character]
  else if character.toNat < 0x100 then '\\' :: 'x' :: hexadecimal 2 character.toNat
  else if character.toNat < 0x10000 then '\\' :: 'u' :: hexadecimal 4 character.toNat
  else '\\' :: 'U' :: hexadecimal 8 character.toNat

def quoted (text : String) : String :=
  let mark := quoteMark text.toList
  String.ofList (mark :: text.toList.flatMap (escapeChar mark) ++ [mark])

end StoryGraph.Text
