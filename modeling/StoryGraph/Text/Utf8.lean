/-!
UTF-8 read strictly, one octet at a time. Between characters the reader expects
a first octet; inside one it knows how many octets are owed and within which
bounds the next one must lie, so overlong forms, surrogates and numbers above
U+10FFFF are refused at the first octet that rules them out. A refusal names
the octets of the broken character that were read before it.
-/

set_option autoImplicit false

namespace StoryGraph.Text

inductive Utf8Cause where
  /-- No character starts with this octet. -/
  | startByte
  /-- A character was begun, and the next octet does not continue it. -/
  | continuationByte
  /-- A character was begun, and the text ends inside it. -/
  | endOfData
  deriving DecidableEq, Repr

/-- Octets that are not UTF-8: the place of the first one, its value, and their count. -/
structure Utf8Fault where
  cause : Utf8Cause
  start : Nat
  first : UInt8
  count : Nat
  deriving DecidableEq, Repr

def Utf8Cause.reason : Utf8Cause → String
  | .startByte => "invalid start byte"
  | .continuationByte => "invalid continuation byte"
  | .endOfData => "unexpected end of data"

def octetText (octet : UInt8) : String :=
  String.ofList [Nat.digitChar (octet.toNat / 16), Nat.digitChar (octet.toNat % 16)]

def Utf8Fault.message (fault : Utf8Fault) : String :=
  let place :=
    if fault.count = 1 then s!"byte 0x{octetText fault.first} in position {fault.start}"
    else s!"bytes in position {fault.start}-{fault.start + fault.count - 1}"
  s!"'utf-8' codec can't decode {place}: {fault.cause.reason}"

/-- A character of which at least one octet is still owed. -/
structure OpenCharacter where
  first : UInt8
  seen : Nat
  owed : Nat
  low : UInt8
  high : UInt8
  payload : Nat
  deriving DecidableEq, Repr

inductive Opening where
  | whole (character : Char)
  | part (character : OpenCharacter)
  | refused

def openCharacter (octet : UInt8) : Opening :=
  let value := octet.toNat
  if value < 0x80 then .whole (Char.ofNat value)
  else if value < 0xC2 then .refused
  else if value < 0xE0 then .part ⟨octet, 1, 0, 0x80, 0xBF, value - 0xC0⟩
  else if value < 0xF0 then
    .part ⟨octet, 1, 1, if value = 0xE0 then 0xA0 else 0x80,
      if value = 0xED then 0x9F else 0xBF, value - 0xE0⟩
  else if value < 0xF5 then
    .part ⟨octet, 1, 2, if value = 0xF0 then 0x90 else 0x80,
      if value = 0xF4 then 0x8F else 0xBF, value - 0xF0⟩
  else .refused

/-- Read octets from a position on, inside a character or between two. -/
def decodeFrom (position : Nat) : Option OpenCharacter → List UInt8 → Except Utf8Fault (List Char)
  | none, [] => .ok []
  | some begun, [] => .error ⟨.endOfData, position - begun.seen, begun.first, begun.seen⟩
  | none, octet :: rest =>
      match openCharacter octet with
      | .whole character => (decodeFrom (position + 1) none rest).map (character :: ·)
      | .part begun => decodeFrom (position + 1) (some begun) rest
      | .refused => .error ⟨.startByte, position, octet, 1⟩
  | some begun, octet :: rest =>
      if begun.low ≤ octet ∧ octet ≤ begun.high then
        let payload := begun.payload * 64 + (octet.toNat - 0x80)
        match begun.owed with
        | 0 => (decodeFrom (position + 1) none rest).map (Char.ofNat payload :: ·)
        | owed + 1 =>
            decodeFrom (position + 1)
              (some ⟨begun.first, begun.seen + 1, owed, 0x80, 0xBF, payload⟩) rest
      else .error ⟨.continuationByte, position - begun.seen, begun.first, begun.seen⟩

def decodeUtf8 (octets : List UInt8) : Except Utf8Fault (List Char) := decodeFrom 0 none octets

/-- Every line end as a line feed: a carriage return, alone or before a line feed, becomes one. -/
def unifyLineEnds : List Char → List Char
  | [] => []
  | '\r' :: '\n' :: rest => '\n' :: unifyLineEnds rest
  | '\r' :: rest => '\n' :: unifyLineEnds rest
  | character :: rest => character :: unifyLineEnds rest

def readText (octets : List UInt8) : Except Utf8Fault (List Char) :=
  (decodeUtf8 octets).map unifyLineEnds

end StoryGraph.Text
