import Mathlib.Data.List.Infix
import StoryGraph.Json.Reader

/-!
How the readers of documents go, case by case. A reader ends by itself, or it passes on what
another one gives behind a part of its text. The cases say what was read and what is left, with the
refusals; what holds of all that is read or refused is proved by going through them, and the
readers are not opened again.
-/

set_option autoImplicit false

namespace StoryGraph.Json

/-- A reader passes on what another one gives: its refusal, or what it read, made into something
else, with the same rest. -/
inductive Passes {α β : Type} {text other : List Char} (part : Reading α other) (make : α → β) :
    Reading β text → Prop where
  | refused {refusal} (refused : part = .error refusal) : Passes part make (.error refusal)
  | read {result left rest} (read : part = .ok (result, left)) (same : rest.1 = left.1) :
      Passes part make (.ok (make result, rest))

/-- Some digits stand in a text. -/
structure Digits (text digits : List Char) : Prop where
  within : digits <:+: text
  digitsOnly : ∀ digit ∈ digits, digit.isDigit = true

/-- How a value is read that is neither a string nor a list nor an object: as one of the words, or
as a literal with whole digits. -/
inductive ReadsWord (text : List Char) : Reading Value text → Prop where
  | word {word rest} (known : word ∈ words) (ending : rest.1 <:+ text) :
      ReadsWord text (.ok (word.2, rest))
  | noDigit {place} : ReadsWord text (.error (.malformed .value place))
  | refused {negative whole fraction exponent refusal} (digits : Digits text whole)
      (refused : literalValue negative whole fraction exponent = .error refusal) :
      ReadsWord text (.error refusal)
  | literal {negative whole fraction exponent value rest} (digits : Digits text whole)
      (literal : literalValue negative whole fraction exponent = .ok value)
      (ending : rest.1 <:+ text) : ReadsWord text (.ok (value, rest))

/-- How a value is read, by the character that it begins with. -/
inductive ReadsValue : (text : List Char) → Reading Value text → Prop where
  | nothing : ReadsValue [] (.error (.malformed .value []))
  | string {rest reading}
      (passes : Passes (readString ('"' :: rest) rest)
        (fun characters => .string (String.ofList characters)) reading) :
      ReadsValue ('"' :: rest) reading
  | noItems {rest after shorter} (next : skipSpaces rest = ']' :: after) :
      ReadsValue ('[' :: rest) (.ok (.list [], ⟨after, shorter⟩))
  | items {rest reading} (passes : Passes (readItems (skipSpaces rest)) .list reading) :
      ReadsValue ('[' :: rest) reading
  | noMembers {rest after shorter} (next : skipSpaces rest = '\x7d' :: after) :
      ReadsValue ('\x7b' :: rest) (.ok (.dict [], ⟨after, shorter⟩))
  | members {rest reading}
      (passes : Passes (readMembers .empty (skipSpaces rest)) .ofTable reading) :
      ReadsValue ('\x7b' :: rest) reading
  | word {text reading} (reads : ReadsWord text reading) : ReadsValue text reading

/-- A member begins with a name in quotes, and its value stands behind a colon. -/
structure Named (text : List Char) (name : List Char) (next : Rest text) (following : List Char) :
    Prop where
  name : readString ('"' :: text) text = .ok (name, next)
  colon : skipSpaces next.1 = ':' :: following

/-- How the members of an object are read, from a name on. -/
inductive ReadsMembers (table : Table Value) :
    (text : List Char) → Reading (Table Value) text → Prop where
  | malformed {text cause place} : ReadsMembers table text (.error (.malformed cause place))
  | noName {rest refusal} (refused : readString ('"' :: rest) rest = .error refusal) :
      ReadsMembers table ('"' :: rest) (.error refusal)
  | noValue {rest name next following refusal} (named : Named rest name next following)
      (refused : readValue (skipSpaces following) = .error refusal) :
      ReadsMembers table ('"' :: rest) (.error refusal)
  | last {rest name next following value behind after shorter}
      (named : Named rest name next following)
      (held : readValue (skipSpaces following) = .ok (value, behind))
      (brace : skipSpaces behind.1 = '\x7d' :: after) :
      ReadsMembers table ('"' :: rest)
        (.ok (table.insert (String.ofList name) value, ⟨after, shorter⟩))
  | more {rest name next following value behind others reading}
      (named : Named rest name next following)
      (held : readValue (skipSpaces following) = .ok (value, behind))
      (comma : skipSpaces behind.1 = ',' :: others)
      (passes : Passes (readMembers (table.insert (String.ofList name) value) (skipSpaces others))
        id reading) : ReadsMembers table ('"' :: rest) reading

section rest

theorem skipSpaces_suffix (text : List Char) : skipSpaces text <:+ text :=
  List.dropWhile_suffix isSpace

theorem suffix_of_skipSpaces {text rest : List Char} {first : Char}
    (next : skipSpaces text = first :: rest) : rest <:+ text :=
  (List.suffix_cons first rest).trans (next ▸ skipSpaces_suffix text)

theorem skipSpaces_suffix_of_skipSpaces {text rest : List Char} {first : Char}
    (next : skipSpaces text = first :: rest) : skipSpaces rest <:+ text :=
  (skipSpaces_suffix rest).trans (suffix_of_skipSpaces next)

theorem length_lt_of_skipSpaces {text rest : List Char} {first : Char}
    (next : skipSpaces text = first :: rest) : (skipSpaces rest).length < text.length := by
  have whole := length_skipSpaces_le text
  have shorter := length_skipSpaces_le rest
  rw [next, List.length_cons] at whole
  omega

/-- What follows the colon is shorter than what begins with the name. -/
theorem Named.length_lt {text name following : List Char} {next : Rest text}
    (named : Named text name next following) :
    (skipSpaces following).length < text.length :=
  Nat.lt_trans (length_lt_of_skipSpaces named.colon) next.2

end rest

section literal

@[simp] theorem wholeDigits_append (text : List Char) :
    (wholeDigits text).1 ++ (wholeDigits text).2 = text := by
  unfold wholeDigits
  split
  · rfl
  next character rest =>
    split
    next zero => rw [zero, List.singleton_append]
    next => exact List.takeWhile_append_dropWhile

theorem digits_wholeDigits (text : List Char) : Digits text (wholeDigits text).1 where
  within := ⟨[], (wholeDigits text).2, wholeDigits_append text⟩
  digitsOnly := by
    unfold wholeDigits
    split
    · exact List.forall_mem_nil _
    next character rest =>
      split
      · intro digit zero
        rw [List.mem_singleton.mp zero]
        rfl
      · exact List.all_eq_true.mp List.all_takeWhile

theorem fractionDigits_suffix (text : List Char) : (fractionDigits text).2 <:+ text := by
  unfold fractionDigits
  split
  next rest =>
    dsimp only
    split
    · exact List.suffix_rfl
    · exact (List.dropWhile_suffix _).trans (List.suffix_cons _ rest)
  next => exact List.suffix_rfl

theorem takeSign_suffix (text : List Char) : (Binary64.takeSign text).2 <:+ text := by
  unfold Binary64.takeSign
  split
  · exact List.suffix_cons _ _
  · exact List.suffix_cons _ _
  · exact List.suffix_rfl

theorem exponentPart_suffix (text : List Char) : (exponentPart text).2 <:+ text := by
  unfold exponentPart
  split
  next mark rest =>
    split
    · dsimp only
      split
      · exact List.suffix_rfl
      · have ending := (List.dropWhile_suffix Char.isDigit).trans (takeSign_suffix rest)
        exact ending.trans (List.suffix_cons mark rest)
    · exact List.suffix_rfl
  next => exact List.suffix_rfl

end literal

section cases

theorem readUnsigned_cases (negative : Bool) (start text : List Char) :
    ReadsWord text (readUnsigned negative start text) := by
  have digits := digits_wholeDigits text
  have whole := wholeDigits_append text
  unfold readUnsigned
  split
  · exact .noDigit
  next written =>
    dsimp only
    rw [written] at digits
    split
    next refused => exact .refused digits refused
    next literal =>
      refine .literal digits literal ?_
      exact ((exponentPart_suffix _).trans (fractionDigits_suffix _)).trans ⟨_, whole⟩

/-- What is read behind a sign is read in the whole. -/
theorem ReadsWord.behind {sign : Char} {rest : List Char} {value : Value} {left : Rest rest}
    (reads : ReadsWord rest (.ok (value, left))) (shorter : left.1.length < (sign :: rest).length) :
    ReadsWord (sign :: rest) (.ok (value, ⟨left.1, shorter⟩)) := by
  have ending := List.suffix_cons sign rest
  cases reads with
  | word known suffix => exact .word known (suffix.trans ending)
  | literal digits literal suffix =>
      exact .literal ⟨digits.within.trans ending.isInfix, digits.digitsOnly⟩ literal
        (suffix.trans ending)

theorem readNumber_cases (text : List Char) : ReadsWord text (readNumber text) := by
  unfold readNumber
  split
  next rest =>
    have reads := readUnsigned_cases true ('-' :: rest) rest
    split
    next refused =>
      rw [refused] at reads
      cases reads with
      | noDigit => exact .noDigit
      | refused digits literal =>
          have ending := List.suffix_cons '-' rest
          exact .refused ⟨digits.within.trans ending.isInfix, digits.digitsOnly⟩ literal
    next read =>
      rw [read] at reads
      exact reads.behind _
  next => exact readUnsigned_cases false text text

theorem readWord_cases (text : List Char) : ReadsWord text (readWord text) := by
  unfold readWord
  split
  next word found => exact .word (List.mem_of_find?_eq_some found) (List.drop_suffix _ text)
  next => exact readNumber_cases text

theorem readValue_cases (text : List Char) : ReadsValue text (readValue text) := by
  unfold readValue
  split
  · exact .nothing
  next character rest =>
    split
    next quote =>
      subst quote
      apply ReadsValue.string
      split
      next refused => exact .refused refused
      next read => exact .read read rfl
    next =>
      split
      next bracket =>
        subst bracket
        dsimp only
        split
        next next => exact .noItems next
        next =>
          apply ReadsValue.items
          split
          next refused => exact .refused refused
          next read => exact .read read rfl
      next =>
        split
        next brace =>
          subst brace
          dsimp only
          split
          next next => exact .noMembers next
          next =>
            apply ReadsValue.members
            split
            next refused => exact .refused refused
            next read => exact .read read rfl
        next => exact .word (readWord_cases _)

theorem readMembers_cases (table : Table Value) (text : List Char) :
    ReadsMembers table text (readMembers table text) := by
  unfold readMembers
  split
  next rest =>
    split
    next refused => exact .noName refused
    next read =>
      dsimp only
      split
      next here =>
        have named : Named rest _ _ _ := ⟨read, here⟩
        split
        next refused => exact .noValue named refused
        next held =>
          split
          next there => exact .last named held there
          next there =>
            apply ReadsMembers.more named held there
            split
            next refused => exact .refused refused
            next read => exact .read read rfl
          next => exact .malformed
      next => exact .malformed
  next => exact .malformed

end cases

section answers

variable {text : List Char} {value : Value} {rest : Rest text}

theorem Passes.of_ok {α β : Type} {other : List Char} {part : Reading α other} {make : α → β}
    {made : β} (passes : Passes part make (.ok (made, rest))) :
    ∃ result left, part = .ok (result, left) ∧ made = make result := by
  generalize same : (.ok (made, rest) : Reading β text) = reading at passes
  cases passes with
  | refused => cases same
  | read read =>
      cases same
      exact ⟨_, _, read, rfl⟩

theorem literalValue_scalar {negative : Bool} {whole fraction : List Char} {exponent : Option Int}
    (literal : literalValue negative whole fraction exponent = .ok value) :
    ∃ scalar, value = .scalar scalar := by
  unfold literalValue at literal
  split at literal
  · split at literal
    · cases literal
    · cases literal
      exact ⟨_, rfl⟩
  · cases literal
    exact ⟨_, rfl⟩

theorem ReadsWord.scalar (reads : ReadsWord text (.ok (value, rest))) :
    ∃ scalar, value = .scalar scalar := by
  cases reads with
  | word known =>
      simp only [words, List.mem_cons, List.not_mem_nil, or_false] at known
      rcases known with rfl | rfl | rfl | rfl | rfl | rfl <;> exact ⟨_, rfl⟩
  | literal _ literal => exact literalValue_scalar literal

/-- An object that is read names each member once: it is empty, or its members were read. -/
theorem readValue_object {members : List (String × Value)}
    (read : readValue text = .ok (.dict members, rest)) :
    ∃ table : Table Value, members = table.entries ∧
      (table = .empty ∨ ∃ (behind : List Char) (left : Rest behind),
        readMembers .empty behind = .ok (table, left)) := by
  have reads := readValue_cases text
  rw [read] at reads
  cases reads with
  | string passes =>
      obtain ⟨_, _, _, same⟩ := passes.of_ok
      cases same
  | items passes =>
      obtain ⟨_, _, _, same⟩ := passes.of_ok
      cases same
  | noMembers => exact ⟨.empty, rfl, .inl rfl⟩
  | members passes =>
      obtain ⟨table, left, readAll, same⟩ := passes.of_ok
      exact ⟨table, Value.dict.inj same, .inr ⟨_, left, readAll⟩⟩
  | word reads =>
      obtain ⟨_, same⟩ := reads.scalar
      cases same

/-- A document is a value with blanks around it. -/
theorem readValue_of_read (read : Json.read text = .ok value) :
    ∃ rest, readValue (skipSpaces text) = .ok (value, rest) := by
  unfold Json.read readDocument at read
  split at read
  · cases read
  next document =>
    cases read
    split at document
    · cases document
    · split at document
      · cases document
      next whole =>
        split at document
        · cases document
          exact ⟨_, whole⟩
        · cases document

end answers

end StoryGraph.Json
