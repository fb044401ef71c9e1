import StoryGraph.Json.Fault
import StoryGraph.Value

/-!
JSON documents as values. A literal with a fraction or an exponent is a binary
number, any other a whole number; `NaN`, `Infinity` and `-Infinity` are read
too. A name written twice in an object keeps its first place and its last
value.

Each reader takes a text and gives back what it read and the rest of the text,
which is shorter; so reading ends. It stops at the first thing that is wrong.

Strings hold characters here, and half of a surrogate pair is none. An escape
of such a half is read as U+FFFD, so names that differ in nothing else fall
together: this is a limit of the model, not of the format.
-/

set_option autoImplicit false

namespace StoryGraph.Json

/-- What is left of a text after something was read. -/
abbrev Rest (text : List Char) := { rest : List Char // rest.length < text.length }

abbrev Reading (α : Type) (text : List Char) := Except Refusal (α × Rest text)

def isSpace (character : Char) : Bool := character ∈ [' ', '\t', '\n', '\r']

def skipSpaces (text : List Char) : List Char := text.dropWhile isSpace

theorem length_skipSpaces_le (text : List Char) : (skipSpaces text).length ≤ text.length :=
  (List.dropWhile_sublist _).length_le

def hexadecimalValue? (character : Char) : Option Nat :=
  if character.isDigit then some (character.toNat - '0'.toNat)
  else if 'a' ≤ character ∧ character ≤ 'f' then some (character.toNat - 'a'.toNat + 10)
  else if 'A' ≤ character ∧ character ≤ 'F' then some (character.toNat - 'A'.toNat + 10)
  else none

def codeUnit? : (text : List Char) → Option (Nat × Rest text)
  | first :: second :: third :: fourth :: next :: rest => do
      let a ← hexadecimalValue? first
      let b ← hexadecimalValue? second
      let c ← hexadecimalValue? third
      let d ← hexadecimalValue? fourth
      return (((a * 16 + b) * 16 + c) * 16 + d, ⟨next :: rest, by simp⟩)
  | _ => none

/-- The character with a number. Half of a surrogate pair is none: U+FFFD stands for it. -/
def characterOf (number : Nat) : Char :=
  if number.isValidChar then Char.ofNat number else '\uFFFD'

def joined (high low : Nat) : Char :=
  Char.ofNat (0x10000 + (high - 0xD800) * 0x400 + (low - 0xDC00))

def isHighSurrogate (unit : Nat) : Bool := 0xD800 ≤ unit && unit < 0xDC00

def isLowSurrogate (unit : Nat) : Bool := 0xDC00 ≤ unit && unit < 0xE000

/-- Read the digits after `\u`, and the second half of a surrogate pair if one follows. -/
def readUnicode (letter : List Char) (text : List Char) : Reading Char text :=
  match codeUnit? text with
  | none => .error (.malformed .unicodeEscape letter)
  | some (unit, ⟨rest, shorter⟩) =>
      match rest with
      | '\\' :: 'u' :: second =>
          if isHighSurrogate unit ∧ 5 ≤ second.length then
            match codeUnit? second with
            | none => .error (.malformed .unicodeEscape ('u' :: second))
            | some (low, ⟨after, shortest⟩) =>
                if isLowSurrogate low then
                  .ok (joined unit low, ⟨after, by simp at shorter; omega⟩)
                else .ok (characterOf unit, ⟨'\\' :: 'u' :: second, shorter⟩)
          else .ok (characterOf unit, ⟨'\\' :: 'u' :: second, shorter⟩)
      | rest => .ok (characterOf unit, ⟨rest, shorter⟩)

def escaped? (letter : Char) : Option Char :=
  if letter ∈ ['"', '\\', '/'] then some letter
  else if letter = 'b' then some '\x08'
  else if letter = 'f' then some '\x0c'
  else if letter = 'n' then some '\n'
  else if letter = 'r' then some '\r'
  else if letter = 't' then some '\t'
  else none

def readEscape (opening : List Char) : (text : List Char) → Reading Char text
  | [] => .error (.malformed .unterminatedString opening)
  | letter :: rest =>
      if letter = 'u' then
        match readUnicode (letter :: rest) rest with
        | .error refusal => .error refusal
        | .ok (character, ⟨after, shorter⟩) =>
            .ok (character, ⟨after, Nat.lt_succ_of_lt shorter⟩)
      else
        match escaped? letter with
        | some character => .ok (character, ⟨rest, Nat.lt_succ_self _⟩)
        | none => .error (.malformed .escape ('\\' :: letter :: rest))

def readString (opening : List Char) (text : List Char) : Reading (List Char) text :=
  match text with
  | [] => .error (.malformed .unterminatedString opening)
  | character :: rest =>
      if character = '"' then .ok ([], ⟨rest, Nat.lt_succ_self _⟩)
      else if character = '\\' then
        match readEscape opening rest with
        | .error refusal => .error refusal
        | .ok (character, ⟨next, shorter⟩) =>
            match readString opening next with
            | .error refusal => .error refusal
            | .ok (characters, ⟨after, shortest⟩) =>
                .ok (character :: characters, ⟨after, by simp; omega⟩)
      else if character.toNat < 0x20 then .error (.malformed .controlCharacter (character :: rest))
      else
        match readString opening rest with
        | .error refusal => .error refusal
        | .ok (characters, ⟨after, shorter⟩) =>
            .ok (character :: characters, ⟨after, Nat.lt_succ_of_lt shorter⟩)
termination_by text.length

/-- The digits before the point: a zero alone, or digits that start with another one. -/
def wholeDigits : List Char → List Char × List Char
  | [] => ([], [])
  | character :: rest =>
      if character = '0' then (['0'], rest) else Binary64.spanDigits (character :: rest)

def fractionDigits (text : List Char) : List Char × List Char :=
  match text with
  | '.' :: rest =>
      let (digits, after) := Binary64.spanDigits rest
      if digits.isEmpty then ([], text) else (digits, after)
  | _ => ([], text)

def exponentPart (text : List Char) : Option Int × List Char :=
  match text with
  | mark :: rest =>
      if mark = 'e' ∨ mark = 'E' then
        let signed := Binary64.takeSign rest
        let (digits, after) := Binary64.spanDigits signed.2
        if digits.isEmpty then (none, text)
        else
          let magnitude : Int := Nat.ofDigitChars 10 digits 0
          (some (if signed.1 then -magnitude else magnitude), after)
      else (none, text)
  | [] => (none, [])

theorem length_spanDigits (text : List Char) :
    (Binary64.spanDigits text).1.length + (Binary64.spanDigits text).2.length = text.length := by
  rw [← List.length_append, Binary64.spanDigits, List.takeWhile_append_dropWhile]

theorem length_takeSign_le (text : List Char) :
    (Binary64.takeSign text).2.length ≤ text.length := by
  unfold Binary64.takeSign
  split <;> simp

theorem length_wholeDigits (text : List Char) :
    (wholeDigits text).1.length + (wholeDigits text).2.length = text.length := by
  unfold wholeDigits
  split
  · rfl
  · split
    · simp [Nat.add_comm]
    · exact length_spanDigits _

theorem length_fractionDigits_le (text : List Char) :
    (fractionDigits text).2.length ≤ text.length := by
  unfold fractionDigits
  split
  next rest =>
    have whole := length_spanDigits rest
    dsimp only
    split
    · exact Nat.le_refl _
    · simp only [List.length_cons]; omega
  next => exact Nat.le_refl _

theorem length_exponentPart_le (text : List Char) :
    (exponentPart text).2.length ≤ text.length := by
  unfold exponentPart
  split
  next mark rest =>
    split
    · have whole := length_spanDigits (Binary64.takeSign rest).2
      have unsigned := length_takeSign_le rest
      dsimp only
      split
      · exact Nat.le_refl _
      · simp only [List.length_cons]; omega
    · exact Nat.le_refl _
  next => exact Nat.le_refl _

/-- The value of a literal: whole without fraction and exponent, else binary. -/
def literalValue (negative : Bool) (whole fraction : List Char) (exponent : Option Int) :
    Except Refusal Value :=
  if fraction.isEmpty && exponent.isNone then
    if Text.digitLimit < whole.length then .error (.longInteger whole.length)
    else
      let magnitude : Int := Nat.ofDigitChars 10 whole 0
      .ok (.int (if negative then -magnitude else magnitude))
  else
    .ok (.scalar (.number (.real
      (Binary64.ofLiteral negative whole fraction (exponent.getD 0)))))

/-- Read a number whose sign, if it has one, stands before `unsigned`. -/
def readUnsigned (negative : Bool) (start unsigned : List Char) : Reading Value unsigned :=
  match _digits : (wholeDigits unsigned).1 with
  | [] => .error (.malformed .value start)
  | first :: others =>
      let fraction := fractionDigits (wholeDigits unsigned).2
      let exponent := exponentPart fraction.2
      match literalValue negative (first :: others) fraction.1 exponent.1 with
      | .error refusal => .error refusal
      | .ok value =>
          .ok (value, ⟨exponent.2, by
            have whole := length_wholeDigits unsigned
            have shorter : fraction.2.length ≤ (wholeDigits unsigned).2.length :=
              length_fractionDigits_le _
            have shortest : exponent.2.length ≤ fraction.2.length := length_exponentPart_le _
            rw [_digits] at whole
            simp only [List.length_cons] at whole
            omega⟩)

def readNumber (text : List Char) : Reading Value text :=
  match text with
  | '-' :: rest =>
      match readUnsigned true ('-' :: rest) rest with
      | .error refusal => .error refusal
      | .ok (value, ⟨after, shorter⟩) => .ok (value, ⟨after, Nat.lt_succ_of_lt shorter⟩)
  | text => readUnsigned false text text

/-- The values that stand for themselves by their spelling. -/
def words : List (List Char × Value) := [
  ("null".toList, .nil),
  ("true".toList, .boolean true),
  ("false".toList, .boolean false),
  ("NaN".toList, .scalar (.number (.real .nan))),
  ("Infinity".toList, .scalar (.number (.real (.infinite false)))),
  ("-Infinity".toList, .scalar (.number (.real (.infinite true))))]

theorem words_not_empty : ∀ word ∈ words, word.1 ≠ [] := by decide

/-- Read a value that is neither a string nor a list nor an object. -/
def readWord (text : List Char) : Reading Value text :=
  match found : words.find? fun word => word.1.isPrefixOf text with
  | some word =>
      .ok (word.2, ⟨text.drop word.1.length, by
        have start := List.isPrefixOf_iff_prefix.mp
          (List.find?_some (p := fun word : List Char × Value => word.1.isPrefixOf text) found)
        have spelled := words_not_empty word (List.mem_of_find?_eq_some found)
        have positive := List.length_pos_iff.mpr spelled
        have fits := start.length_le
        simp only [List.length_drop]
        omega⟩)
  | none => readNumber text

mutual

def readValue (text : List Char) : Reading Value text :=
  match text with
  | [] => .error (.malformed .value [])
  | character :: rest =>
      if character = '"' then
        match readString (character :: rest) rest with
        | .error refusal => .error refusal
        | .ok (characters, ⟨after, shorter⟩) =>
            .ok (.string (String.ofList characters), ⟨after, Nat.lt_succ_of_lt shorter⟩)
      else if character = '[' then
        have shorter := length_skipSpaces_le rest
        match next : skipSpaces rest with
        | ']' :: after =>
            .ok (.list [], ⟨after, by rw [next] at shorter; simp at shorter ⊢; omega⟩)
        | _ =>
            match readItems (skipSpaces rest) with
            | .error refusal => .error refusal
            | .ok (items, ⟨after, shortest⟩) => .ok (.list items, ⟨after, by simp; omega⟩)
      else if character = '\x7b' then
        have shorter := length_skipSpaces_le rest
        match next : skipSpaces rest with
        | '\x7d' :: after =>
            .ok (.dict [], ⟨after, by rw [next] at shorter; simp at shorter ⊢; omega⟩)
        | _ =>
            match readMembers .empty (skipSpaces rest) with
            | .error refusal => .error refusal
            | .ok (members, ⟨after, shortest⟩) =>
                .ok (.ofTable members, ⟨after, by simp; omega⟩)
      else readWord (character :: rest)
termination_by 2 * text.length
decreasing_by all_goals simp only [List.length_cons]; omega

def readItems (text : List Char) : Reading (List Value) text :=
  match readValue text with
  | .error refusal => .error refusal
  | .ok (item, ⟨next, shorter⟩) =>
      have shorter := Nat.lt_of_le_of_lt (length_skipSpaces_le next) shorter
      match here : skipSpaces next with
      | ']' :: after => .ok ([item], ⟨after, by rw [here] at shorter; simp at shorter; omega⟩)
      | ',' :: following =>
          have shortest : (skipSpaces following).length < text.length := by
            rw [here] at shorter
            have := length_skipSpaces_le following
            simp at shorter
            omega
          match readItems (skipSpaces following) with
          | .error refusal => .error refusal
          | .ok (items, ⟨after, left⟩) => .ok (item :: items, ⟨after, by omega⟩)
      | other => .error (.malformed .comma other)
termination_by 2 * text.length + 1

def readMembers (members : Table Value) (text : List Char) : Reading (Table Value) text :=
  match text with
  | '"' :: rest =>
      match readString ('"' :: rest) rest with
      | .error refusal => .error refusal
      | .ok (name, ⟨next, shorter⟩) =>
          have shorter := Nat.lt_of_le_of_lt (length_skipSpaces_le next) shorter
          match here : skipSpaces next with
          | ':' :: following =>
              have shortest : (skipSpaces following).length < rest.length := by
                rw [here] at shorter
                have := length_skipSpaces_le following
                simp at shorter
                omega
              match readValue (skipSpaces following) with
              | .error refusal => .error refusal
              | .ok (value, ⟨next, left⟩) =>
                  let members := members.insert (String.ofList name) value
                  have left := Nat.lt_of_le_of_lt (length_skipSpaces_le next) left
                  match there : skipSpaces next with
                  | '\x7d' :: after =>
                      .ok (members, ⟨after, by rw [there] at left; simp at left ⊢; omega⟩)
                  | ',' :: following =>
                      have least : (skipSpaces following).length < rest.length := by
                        rw [there] at left
                        have := length_skipSpaces_le following
                        simp at left
                        omega
                      match readMembers members (skipSpaces following) with
                      | .error refusal => .error refusal
                      | .ok (members, ⟨after, last⟩) =>
                          .ok (members, ⟨after, by simp; omega⟩)
                  | other => .error (.malformed .comma other)
          | other => .error (.malformed .colon other)
  | other => .error (.malformed .name other)
termination_by 2 * text.length + 1
decreasing_by all_goals simp only [List.length_cons]; omega

end

def readDocument (text : List Char) : Except Refusal Value :=
  if text.head? = some '\uFEFF' then .error (.malformed .byteOrderMark text)
  else
    match readValue (skipSpaces text) with
    | .error refusal => .error refusal
    | .ok (value, ⟨after, _⟩) =>
        match skipSpaces after with
        | [] => .ok value
        | other => .error (.malformed .extraData other)

def read (text : List Char) : Except Fault Value :=
  match readDocument text with
  | .error refusal => .error (refusal.locate text)
  | .ok value => .ok value

end StoryGraph.Json
