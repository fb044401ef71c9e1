import StoryGraph.Proofs.Readers

/-!
Whole numbers that are too long to be read. What a reader leaves is the end of its text, so what
is refused later on was written in the whole text; and the only refusal that is no matter of the
grammar is that of a row of more digits than are read as a whole number.
-/

set_option autoImplicit false

namespace StoryGraph.Json

/-- A row of so many digits stands in a text, and these are more than are read. -/
def HoldsNumeral (digits : Nat) (text : List Char) : Prop :=
  Text.digitLimit < digits ∧
    ∃ run, run <:+: text ∧ run.length = digits ∧ ∀ digit ∈ run, digit.isDigit = true

/-- What is left is the end of the text, and a numeral that is refused as too long stands in it. -/
structure Faithful {α : Type} {text : List Char} (reading : Reading α text) : Prop where
  rest : ∀ result rest, reading = .ok (result, rest) → rest.1 <:+ text
  numeral : ∀ digits, reading = .error (.longInteger digits) → HoldsNumeral digits text

theorem HoldsNumeral.within {digits : Nat} {rest text : List Char}
    (holds : HoldsNumeral digits rest) (ending : rest <:+ text) : HoldsNumeral digits text := by
  obtain ⟨long, run, within, counted, digitsOnly⟩ := holds
  exact ⟨long, run, within.trans ending.isInfix, counted, digitsOnly⟩

theorem codeUnit?_suffix {text : List Char} {number : Nat} {rest : Rest text}
    (read : codeUnit? text = some (number, rest)) : rest.1 <:+ text := by
  unfold codeUnit? at read
  split at read
  next first second third fourth next after =>
    simp only [Option.bind_eq_bind, Option.bind_eq_some_iff] at read
    obtain ⟨_, _, _, _, _, _, _, _, same⟩ := read
    cases same
    exact ⟨[first, second, third, fourth], rfl⟩
  next => cases read

namespace Faithful

variable {α β : Type} {text other : List Char}

theorem malformed {cause : Cause} {place : List Char} :
    Faithful (.error (.malformed cause place) : Reading α text) := ⟨nofun, nofun⟩

theorem ok {result : α} {rest : Rest text} (ending : rest.1 <:+ text) :
    Faithful (.ok (result, rest) : Reading α text) := by
  refine ⟨fun other left same => ?_, nofun⟩
  cases same
  exact ending

/-- What a reader refused in the end of a text is refused in the whole. -/
theorem error {reading : Reading β other} {refusal : Refusal} (faithful : Faithful reading)
    (refused : reading = .error refusal) (ending : other <:+ text) :
    Faithful (.error refusal : Reading α text) := by
  refine ⟨nofun, fun digits same => ?_⟩
  cases same
  exact (faithful.numeral digits refused).within ending

theorem of_passes {part : Reading β other} {make : β → α} {reading : Reading α text}
    (passes : Passes part make reading) (faithful : Faithful part) (ending : other <:+ text) :
    Faithful reading := by
  cases passes with
  | refused refused => exact faithful.error refused ending
  | read read same => exact .ok (same ▸ (faithful.rest _ _ read).trans ending)

end Faithful

theorem readUnicode_faithful (letter text : List Char) : Faithful (readUnicode letter text) := by
  unfold readUnicode
  split
  · exact .malformed
  next unit rest shorter read =>
    have ending : rest <:+ text := codeUnit?_suffix read
    split
    next second _ =>
      split
      · split
        · exact .malformed
        next low after _ readLow =>
          split
          · have further : after <:+ second := codeUnit?_suffix readLow
            have escape : second <:+ '\\' :: 'u' :: second := ⟨['\\', 'u'], rfl⟩
            exact .ok (further.trans (escape.trans ending))
          · exact .ok ending
      · exact .ok ending
    next => exact .ok ending

theorem readEscape_faithful (opening text : List Char) : Faithful (readEscape opening text) := by
  unfold readEscape
  split
  · exact .malformed
  next letter rest =>
    split
    · split
      next refusal refused =>
        exact (readUnicode_faithful _ rest).error refused (List.suffix_cons letter rest)
      next read =>
        have ending := (readUnicode_faithful _ rest).rest _ _ read
        exact .ok (ending.trans (List.suffix_cons letter rest))
    · split
      · exact .ok (List.suffix_cons letter rest)
      · exact .malformed

theorem readString_faithful (opening text : List Char) : Faithful (readString opening text) := by
  fun_induction readString opening text with
  | case1 => exact .malformed
  | case2 rest => exact .ok (List.suffix_cons _ rest)
  | case3 rest _ refused =>
      exact (readEscape_faithful _ rest).error refused (List.suffix_cons _ rest)
  | case4 rest _ after _ read _ refused _ inductionHypothesis =>
      have ending := (readEscape_faithful _ rest).rest _ _ read
      exact inductionHypothesis.error refused (ending.trans (List.suffix_cons _ rest))
  | case5 rest _ _ _ read _ _ _ readRest _ inductionHypothesis =>
      have ending := (readEscape_faithful _ rest).rest _ _ read
      have further := inductionHypothesis.rest _ _ readRest
      exact .ok (further.trans (ending.trans (List.suffix_cons _ rest)))
  | case6 => exact .malformed
  | case7 letter rest _ _ _ _ refused inductionHypothesis =>
      exact inductionHypothesis.error refused (List.suffix_cons letter rest)
  | case8 letter rest _ _ _ _ _ _ readRest inductionHypothesis =>
      have ending := inductionHypothesis.rest _ _ readRest
      exact .ok (ending.trans (List.suffix_cons letter rest))

/-- What follows the colon is the end of what begins with the name. -/
theorem Named.suffix {text name following : List Char} {next : Rest text}
    (named : Named text name next following) : skipSpaces following <:+ '"' :: text := by
  have ending := (readString_faithful _ text).rest _ _ named.name
  have further := (skipSpaces_suffix_of_skipSpaces named.colon).trans ending
  exact further.trans (List.suffix_cons '"' text)

theorem literalValue_longInteger {negative : Bool} {whole fraction : List Char}
    {exponent : Option Int} {digits : Nat}
    (refused : literalValue negative whole fraction exponent = .error (.longInteger digits)) :
    Text.digitLimit < digits ∧ whole.length = digits := by
  unfold literalValue at refused
  split at refused
  · split at refused
    next long =>
      cases refused
      exact ⟨long, rfl⟩
    next => cases refused
  · cases refused

theorem readWord_faithful {text : List Char} {reading : Reading Value text}
    (reads : ReadsWord text reading) : Faithful reading := by
  cases reads with
  | word _ ending => exact .ok ending
  | noDigit => exact .malformed
  | refused digits refused =>
      refine ⟨nofun, fun count same => ?_⟩
      cases same
      obtain ⟨long, counted⟩ := literalValue_longInteger refused
      exact ⟨long, _, digits.within, counted, digits.digitsOnly⟩
  | literal _ _ ending => exact .ok ending

theorem readValue_faithful (text : List Char)
    (items : ∀ shorter : List Char, shorter.length < text.length → Faithful (readItems shorter))
    (members : ∀ (table : Table Value) (shorter : List Char), shorter.length < text.length →
      Faithful (readMembers table shorter)) : Faithful (readValue text) := by
  -- What stands behind a bracket or a brace is the end of the text, and shorter.
  have behind {first : Char} {rest : List Char} : skipSpaces rest <:+ first :: rest :=
    (skipSpaces_suffix rest).trans (List.suffix_cons first rest)
  have shorter {first : Char} {rest : List Char} :
      (skipSpaces rest).length < (first :: rest).length :=
    Nat.lt_succ_of_le (length_skipSpaces_le rest)
  have reads := readValue_cases text
  generalize readValue text = reading at reads
  cases reads with
  | nothing => exact .malformed
  | @string rest _ passes =>
      exact .of_passes passes (readString_faithful _ rest) (List.suffix_cons _ rest)
  | @noItems rest _ _ next =>
      exact .ok ((suffix_of_skipSpaces next).trans (List.suffix_cons _ rest))
  | items passes => exact .of_passes passes (items _ shorter) behind
  | @noMembers rest _ _ next =>
      exact .ok ((suffix_of_skipSpaces next).trans (List.suffix_cons _ rest))
  | members passes => exact .of_passes passes (members .empty _ shorter) behind
  | word reads => exact readWord_faithful reads

theorem readItems_faithful (text : List Char) (value : Faithful (readValue text))
    (items : ∀ shorter : List Char, shorter.length < text.length → Faithful (readItems shorter)) :
    Faithful (readItems text) := by
  unfold readItems
  split
  next refused => exact value.error refused List.suffix_rfl
  next item next shorter read =>
    have ending : next <:+ text := value.rest _ _ read
    dsimp only
    split
    next here => exact .ok ((suffix_of_skipSpaces here).trans ending)
    next following here =>
      have further := (skipSpaces_suffix_of_skipSpaces here).trans ending
      have faithful := items (skipSpaces following)
        (Nat.lt_trans (length_lt_of_skipSpaces here) shorter)
      split
      next refused => exact faithful.error refused further
      next readRest => exact .ok ((faithful.rest _ _ readRest).trans further)
    next => exact .malformed

theorem readMembers_faithful (table : Table Value) (text : List Char)
    (value : ∀ shorter : List Char, shorter.length < text.length → Faithful (readValue shorter))
    (members : ∀ (table : Table Value) (shorter : List Char), shorter.length < text.length →
      Faithful (readMembers table shorter)) : Faithful (readMembers table text) := by
  have reads := readMembers_cases table text
  generalize readMembers table text = reading at reads
  cases reads with
  | malformed => exact .malformed
  | @noName rest _ refused =>
      exact (readString_faithful _ rest).error refused (List.suffix_cons _ rest)
  | noValue named refused =>
      exact (value _ (Nat.lt_succ_of_lt named.length_lt)).error refused named.suffix
  | last named held brace =>
      have faithful := value _ (Nat.lt_succ_of_lt named.length_lt)
      have ending := (faithful.rest _ _ held).trans named.suffix
      exact .ok ((suffix_of_skipSpaces brace).trans ending)
  | @more _ _ _ _ _ behind _ _ named held comma passes =>
      have faithful := value _ (Nat.lt_succ_of_lt named.length_lt)
      have ending := (faithful.rest _ _ held).trans named.suffix
      have fewer := Nat.lt_trans (length_lt_of_skipSpaces comma) behind.2
      refine .of_passes passes (members _ _ ?_)
        ((skipSpaces_suffix_of_skipSpaces comma).trans ending)
      exact Nat.lt_succ_of_lt (Nat.lt_trans fewer named.length_lt)

/-- By induction on the length: a value is read before the items and the members that begin with
it, and what stands in brackets or braces is shorter. -/
theorem readers_faithful (length : Nat) :
    (∀ text : List Char, text.length = length → Faithful (readValue text)) ∧
    (∀ text : List Char, text.length = length → Faithful (readItems text)) ∧
    ∀ (table : Table Value) (text : List Char), text.length = length →
      Faithful (readMembers table text) := by
  induction length using Nat.strongRecOn with
  | ind length inductionHypothesis =>
    have value : ∀ text : List Char, text.length = length → Faithful (readValue text) := by
      rintro text rfl
      apply readValue_faithful
      · exact fun shorter less => (inductionHypothesis _ less).2.1 shorter rfl
      · exact fun table shorter less => (inductionHypothesis _ less).2.2 table shorter rfl
    refine ⟨value, ?_, ?_⟩
    · rintro text rfl
      apply readItems_faithful text (value text rfl)
      exact fun shorter less => (inductionHypothesis _ less).2.1 shorter rfl
    · rintro table text rfl
      apply readMembers_faithful
      · exact fun shorter less => (inductionHypothesis _ less).1 shorter rfl
      · exact fun table shorter less => (inductionHypothesis _ less).2.2 table shorter rfl

/-- A number that is refused as too long stands in the text, with more digits than are read. -/
theorem holdsNumeral_of_read {text : List Char} {digits : Nat}
    (refused : Json.read text = .error (.longInteger digits)) : HoldsNumeral digits text := by
  unfold Json.read at refused
  split at refused
  next refusal document =>
    unfold readDocument at document
    split at document
    · cases document
      cases refused
    · have faithful := (readers_faithful _).1 (skipSpaces text) rfl
      split at document
      next stopped =>
        cases document
        cases refusal with
        | malformed => cases refused
        | longInteger =>
            cases refused
            exact (faithful.numeral digits stopped).within (skipSpaces_suffix text)
      next =>
        split at document
        · cases document
        · cases document
          cases refused
  next => cases refused

end StoryGraph.Json
