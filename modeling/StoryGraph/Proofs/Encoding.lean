import StoryGraph.Text.Utf8

/-!
Octets that write a text. The reader of UTF-8 accepts exactly the octets that the characters of a
text are written in, one after another, and gives that text. Inside a character the octets that
are owed close it: `Closes` says how, and with the first octet they are what the character is
written in.
-/

set_option autoImplicit false

namespace StoryGraph.Text

/-- The character with one more of its octets. -/
def OpenCharacter.continued (begun : OpenCharacter) (octet : UInt8) (owed : Nat) : OpenCharacter :=
  ⟨begun.first, begun.seen + 1, owed, 0x80, 0xBF, begun.payload * 64 + (octet.toNat - 0x80)⟩

/-- The octets that are owed, and the character that they close. -/
inductive OpenCharacter.Closes : OpenCharacter → List UInt8 → Char → Prop where
  | last {begun : OpenCharacter} {octet} (owed : begun.owed = 0) (low : begun.low ≤ octet)
      (high : octet ≤ begun.high) :
      Closes begun [octet] (Char.ofNat (begun.payload * 64 + (octet.toNat - 0x80)))
  | more {begun : OpenCharacter} {octet owed tail character} (owes : begun.owed = owed + 1)
      (low : begun.low ≤ octet) (high : octet ≤ begun.high)
      (closes : Closes (begun.continued octet owed) tail character) :
      Closes begun (octet :: tail) character

variable {position : Nat} {begun : OpenCharacter} {octet : UInt8} {octets tail : List UInt8}
  {character : Char} {characters : List Char}

theorem decodeFrom_of_closes (closes : begun.Closes tail character) (position : Nat)
    (rest : List UInt8) :
    decodeFrom position (some begun) (tail ++ rest) =
      (decodeFrom (position + tail.length) none rest).map (character :: ·) := by
  induction closes generalizing position with
  | last owed low high =>
      rw [List.cons_append, decodeFrom, if_pos ⟨low, high⟩]
      simp only [owed]
      rfl
  | more owes low high _ inductionHypothesis =>
      rw [List.cons_append, decodeFrom, if_pos ⟨low, high⟩]
      simp only [owes]
      rw [List.length_cons, ← Nat.add_assoc, Nat.add_right_comm]
      exact inductionHypothesis (position + 1)

theorem closes_of_decodeFrom (decoded : decodeFrom position (some begun) octets = .ok characters) :
    ∃ tail rest character others next, octets = tail ++ rest ∧ begun.Closes tail character ∧
      characters = character :: others ∧ decodeFrom next none rest = .ok others := by
  induction octets generalizing position begun with
  | nil => cases decoded
  | cons octet rest inductionHypothesis =>
      rw [decodeFrom] at decoded
      split at decoded
      next within =>
        obtain ⟨low, high⟩ := within
        dsimp only at decoded
        split at decoded
        next owed =>
          cases behind : decodeFrom (position + 1) none rest with
          | error fault =>
              rw [behind] at decoded
              cases decoded
          | ok others =>
              rw [behind] at decoded
              cases decoded
              exact ⟨[octet], rest, _, others, _, rfl, .last owed low high, rfl, behind⟩
        next owed owes =>
          obtain ⟨tail, rest, character, others, next, rfl, closes, rfl, behind⟩ :=
            inductionHypothesis decoded
          exact ⟨octet :: tail, rest, character, others, next, rfl, .more owes low high closes, rfl,
            behind⟩
      next => cases decoded

@[simp] theorem toNat_ofNat_of_valid {number : Nat} (valid : number.isValidChar) :
    (Char.ofNat number).val.toNat = number := by
  rw [Char.ofNat, dif_pos valid]
  rfl

@[simp] theorem whole_iff :
    openCharacter octet = .whole character ↔ String.utf8EncodeChar character = [octet] := by
  have small := octet.toNat_lt
  constructor
  · intro opened
    unfold openCharacter at opened
    dsimp only at opened
    split at opened
    next ascii =>
      cases opened
      have value : (Char.ofNat octet.toNat).val.toNat = octet.toNat :=
        toNat_ofNat_of_valid (.inl (by omega))
      rw [String.utf8EncodeChar, value, if_pos (by omega), UInt8.ofNat_toNat]
    · repeat' split at opened
      all_goals cases opened
  · intro written
    unfold String.utf8EncodeChar at written
    dsimp only at written
    split at written
    next ascii =>
      cases written
      unfold openCharacter
      have value : (UInt8.ofNat character.val.toNat).toNat = character.val.toNat := by
        rw [UInt8.toNat_ofNat']
        omega
      dsimp only
      rw [value, if_pos (by omega)]
      exact congrArg _ (Char.ofNat_toNat character)
    · repeat' split at written
      all_goals cases written

theorem ofNat_eq_of_toNat {number : Nat} (octet : UInt8) (same : number = octet.toNat) :
    UInt8.ofNat number = octet := by
  rw [same, UInt8.ofNat_toNat]

theorem OpenCharacter.Closes.of_last (closes : begun.Closes tail character)
    (owed : begun.owed = 0) :
    ∃ octet, tail = [octet] ∧ begun.low.toNat ≤ octet.toNat ∧ octet.toNat ≤ begun.high.toNat ∧
      character = Char.ofNat (begun.payload * 64 + (octet.toNat - 0x80)) := by
  cases closes with
  | last _ low high =>
      exact ⟨_, rfl, UInt8.le_iff_toNat_le.mp low, UInt8.le_iff_toNat_le.mp high, rfl⟩
  | more owes =>
      rw [owed] at owes
      cases owes

theorem OpenCharacter.Closes.of_more {owed : Nat} (closes : begun.Closes tail character)
    (owes : begun.owed = owed + 1) :
    ∃ octet rest, tail = octet :: rest ∧ begun.low.toNat ≤ octet.toNat ∧
      octet.toNat ≤ begun.high.toNat ∧ (begun.continued octet owed).Closes rest character := by
  cases closes with
  | last none =>
      rw [none] at owes
      cases owes
  | more owesToo low high closes =>
      rw [owes] at owesToo
      cases owesToo
      exact ⟨_, _, rfl, UInt8.le_iff_toNat_le.mp low, UInt8.le_iff_toNat_le.mp high, closes⟩

/-- With the octets that close it, an octet that begins a character writes that character. -/
theorem written_of_part (opened : openCharacter octet = .part begun)
    (closes : begun.Closes tail character) : String.utf8EncodeChar character = octet :: tail := by
  have small := octet.toNat_lt
  unfold openCharacter at opened
  dsimp only at opened
  split at opened
  · cases opened
  split at opened
  · cases opened
  split at opened
  · cases opened
    obtain ⟨second, rfl, low, high, value⟩ := closes.of_last rfl
    simp only [UInt8.reduceToNat] at *
    rw [value, String.utf8EncodeChar, toNat_ofNat_of_valid (.inl (by omega)), if_neg (by omega),
      if_pos (by omega), ofNat_eq_of_toNat octet (by omega),
      ofNat_eq_of_toNat second (by omega)]
  split at opened
  · cases opened
    obtain ⟨second, _, rfl, low, high, closes⟩ := closes.of_more rfl
    obtain ⟨third, rfl, lowThird, highThird, value⟩ := closes.of_last rfl
    simp only [apply_ite UInt8.toNat, UInt8.reduceToNat, OpenCharacter.continued] at *
    have notOverlong : 0x80 ≤ second.toNat ∧ (octet.toNat = 0xE0 → 0xA0 ≤ second.toNat) := by
      split at low <;> omega
    have noSurrogate : second.toNat ≤ 0xBF ∧ (octet.toNat = 0xED → second.toNat ≤ 0x9F) := by
      split at high <;> omega
    clear low high
    rw [value, String.utf8EncodeChar, toNat_ofNat_of_valid (by unfold Nat.isValidChar; omega),
      if_neg (by omega), if_neg (by omega), if_pos (by omega),
      ofNat_eq_of_toNat octet (by omega),
      ofNat_eq_of_toNat second (by omega),
      ofNat_eq_of_toNat third (by omega)]
  split at opened
  · cases opened
    obtain ⟨second, _, rfl, low, high, closes⟩ := closes.of_more rfl
    obtain ⟨third, _, rfl, lowThird, highThird, closes⟩ := closes.of_more rfl
    obtain ⟨fourth, rfl, lowFourth, highFourth, value⟩ := closes.of_last rfl
    simp only [apply_ite UInt8.toNat, UInt8.reduceToNat, OpenCharacter.continued] at *
    have notOverlong : 0x80 ≤ second.toNat ∧ (octet.toNat = 0xF0 → 0x90 ≤ second.toNat) := by
      split at low <;> omega
    have inRange : second.toNat ≤ 0xBF ∧ (octet.toNat = 0xF4 → second.toNat ≤ 0x8F) := by
      split at high <;> omega
    clear low high
    rw [value, String.utf8EncodeChar, toNat_ofNat_of_valid (by unfold Nat.isValidChar; omega),
      if_neg (by omega), if_neg (by omega), if_neg (by omega),
      ofNat_eq_of_toNat octet (by omega),
      ofNat_eq_of_toNat second (by omega),
      ofNat_eq_of_toNat third (by omega),
      ofNat_eq_of_toNat fourth (by omega)]
  · cases opened

theorem closes_last (owed : begun.owed = 0) (low : begun.low.toNat ≤ octet.toNat)
    (high : octet.toNat ≤ begun.high.toNat)
    (value : begun.payload * 64 + (octet.toNat - 0x80) = character.val.toNat) :
    begun.Closes [octet] character := by
  have closes : begun.Closes [octet] _ :=
    .last owed (UInt8.le_iff_toNat_le.mpr low) (UInt8.le_iff_toNat_le.mpr high)
  rw [value] at closes
  rwa [show Char.ofNat character.val.toNat = character from Char.ofNat_toNat character] at closes

theorem closes_more {owed : Nat} (owes : begun.owed = owed + 1)
    (low : begun.low.toNat ≤ octet.toNat) (high : octet.toNat ≤ begun.high.toNat)
    (closes : (begun.continued octet owed).Closes tail character) :
    begun.Closes (octet :: tail) character :=
  .more owes (UInt8.le_iff_toNat_le.mpr low) (UInt8.le_iff_toNat_le.mpr high) closes

/-- A character begins with an octet that is the whole of it, or with one that the others close. -/
theorem opens_of_written (written : String.utf8EncodeChar character = octet :: tail) :
    openCharacter octet = .whole character ∧ tail = [] ∨
      ∃ begun, openCharacter octet = .part begun ∧ begun.Closes tail character := by
  have valid := character.valid
  unfold UInt32.isValidChar Nat.isValidChar at valid
  unfold String.utf8EncodeChar at written
  dsimp only at written
  split at written
  next ascii =>
    cases written
    refine .inl ⟨?_, rfl⟩
    rw [whole_iff, String.utf8EncodeChar, if_pos ascii]
  split at written
  next =>
    cases written
    right
    unfold openCharacter
    dsimp only
    rw [UInt8.toNat_ofNat_of_lt' (show _ < 256 by omega), if_neg (by omega),
      if_neg (by omega), if_pos (by omega)]
    refine ⟨_, rfl, closes_last rfl ?_ ?_ ?_⟩
    all_goals simp only [UInt8.toNat_ofNat', UInt8.reduceToNat]; omega
  split at written
  next =>
    cases written
    right
    unfold openCharacter
    dsimp only
    rw [UInt8.toNat_ofNat_of_lt' (show _ < 256 by omega), if_neg (by omega),
      if_neg (by omega), if_neg (by omega), if_pos (by omega)]
    refine ⟨_, rfl, closes_more rfl ?_ ?_ (closes_last rfl ?_ ?_ ?_)⟩
    all_goals
      simp only [apply_ite UInt8.toNat, UInt8.toNat_ofNat', UInt8.reduceToNat,
        OpenCharacter.continued]
      try split
      all_goals omega
  next =>
    cases written
    right
    unfold openCharacter
    dsimp only
    rw [UInt8.toNat_ofNat_of_lt' (show _ < 256 by omega), if_neg (by omega),
      if_neg (by omega), if_neg (by omega), if_neg (by omega), if_pos (by omega)]
    refine ⟨_, rfl, closes_more rfl ?_ ?_ (closes_more rfl ?_ ?_ (closes_last rfl ?_ ?_ ?_))⟩
    all_goals
      simp only [apply_ite UInt8.toNat, UInt8.toNat_ofNat', UInt8.reduceToNat,
        OpenCharacter.continued]
      try split
      all_goals omega

@[simp] theorem decodeFrom_written (characters : List Char) (position : Nat) :
    decodeFrom position none (characters.flatMap String.utf8EncodeChar) = .ok characters := by
  induction characters generalizing position with
  | nil => rfl
  | cons character others inductionHypothesis =>
      rw [List.flatMap_cons]
      cases written : String.utf8EncodeChar character with
      | nil =>
          have positive := character.utf8Size_pos
          rw [← String.length_utf8EncodeChar, written] at positive
          cases positive
      | cons octet tail =>
          rw [List.cons_append, decodeFrom]
          rcases opens_of_written written with ⟨opened, rfl⟩ | ⟨begun, opened, closes⟩
          · simp only [opened, List.nil_append, inductionHypothesis, Except.map]
          · simp only [opened, decodeFrom_of_closes closes, inductionHypothesis, Except.map]

theorem written_of_decodeFrom (decoded : decodeFrom position none octets = .ok characters) :
    characters.flatMap String.utf8EncodeChar = octets := by
  generalize size : octets.length = length
  induction length using Nat.strongRecOn generalizing octets characters position with
  | ind length inductionHypothesis =>
    subst size
    cases octets with
    | nil =>
        cases decoded
        rfl
    | cons octet rest =>
        rw [decodeFrom] at decoded
        split at decoded
        next character opened =>
          cases behind : decodeFrom (position + 1) none rest with
          | error fault =>
              rw [behind] at decoded
              cases decoded
          | ok others =>
              rw [behind] at decoded
              cases decoded
              rw [List.flatMap_cons, whole_iff.mp opened,
                inductionHypothesis _ (Nat.lt_succ_self _) behind rfl, List.singleton_append]
        next begun opened =>
          obtain ⟨tail, after, character, others, next, rfl, closes, rfl, behind⟩ :=
            closes_of_decodeFrom decoded
          have shorter : after.length < (octet :: (tail ++ after)).length := by
            rw [List.length_cons, List.length_append]
            omega
          rw [List.flatMap_cons, written_of_part opened closes,
            inductionHypothesis _ shorter behind rfl, List.cons_append]
        next => cases decoded

/-- Octets are read as a text exactly if the characters of the text are written in them. -/
@[simp] theorem decodeUtf8_eq_ok :
    decodeUtf8 octets = .ok characters ↔ characters.flatMap String.utf8EncodeChar = octets := by
  constructor
  · exact written_of_decodeFrom
  · rintro rfl
    exact decodeFrom_written characters 0

end StoryGraph.Text
