import StoryGraph.Proofs.Numerals
import StoryGraph.Terminal.Config

/-!
The text of settings, read back. The octets of a text without carriage returns give the text again.
The three values are written as a document has them, so the reader takes each one and stops at the
comma or the line end behind it; and the names hold no character that a string would have to escape.
So the whole text is a document, and what it writes are the members of the settings.
-/

set_option autoImplicit false

namespace StoryGraph

namespace Text

theorem byteArray_loop_eq (bytes : ByteArray) (index : Nat) (before : List UInt8) :
    ByteArray.toList.loop bytes index before =
      before.reverse ++ bytes.data.toList.drop index := by
  induction index, before using ByteArray.toList.loop.induct bytes with
  | case1 index before inside inductionHypothesis =>
      have within : index < bytes.data.toList.length := by simpa using inside
      have octet : bytes.get! index = bytes.data.toList[index] := by
        rw [ByteArray.get!, Array.getElem_toList]
        exact getElem!_pos bytes.data index (by simpa using inside)
      rw [ByteArray.toList.loop, if_pos inside, inductionHypothesis,
        List.drop_eq_getElem_cons within, octet, List.reverse_cons, List.append_assoc,
        List.singleton_append]
  | case2 index before outside =>
      have beyond : bytes.data.toList.length ≤ index := by simpa using outside
      rw [ByteArray.toList.loop, if_neg outside, List.drop_eq_nil_of_le beyond, List.append_nil]

/-- The octets of a text are those of its characters. -/
@[simp] theorem toUTF8_toList (text : String) :
    text.toUTF8.toList = text.toList.flatMap String.utf8EncodeChar := by
  have encoded : text.toUTF8 = (text.toList.flatMap String.utf8EncodeChar).toByteArray :=
    String.utf8Encode_toList.symm
  rw [encoded, ByteArray.toList, byteArray_loop_eq, List.reverse_nil, List.nil_append,
    List.drop_zero, List.toList_data_toByteArray]

@[simp] theorem unifyLineEnds_of_no_return {text : List Char} (noReturn : '\r' ∉ text) :
    unifyLineEnds text = text := by
  fun_induction unifyLineEnds text with
  | case1 => rfl
  | case2 => exact absurd List.mem_cons_self noReturn
  | case3 => exact absurd List.mem_cons_self noReturn
  | case4 character rest _ _ inductionHypothesis =>
      rw [inductionHypothesis fun present => noReturn (List.mem_cons_of_mem _ present)]

@[simp] theorem readText_toUTF8 {text : String} (noReturn : '\r' ∉ text.toList) :
    readText text.toUTF8.toList = .ok text.toList :=
  readText_eq_ok.mpr ⟨text.toList, toUTF8_toList text, (unifyLineEnds_of_no_return noReturn).symm⟩

end Text

namespace Json

/-- A reading that gives a result and leaves a rest. -/
def Reads {α : Type} {text : List Char} (reading : Reading α text) (result : α)
    (rest : List Char) : Prop :=
  ∃ shorter, reading = .ok (result, ⟨rest, shorter⟩)

/-- A character that stands for itself in a string. -/
def isPlain (character : Char) : Bool :=
  character ≠ '"' && character ≠ '\\' && !(character.toNat < 0x20)

/-- A text writes a value before a comma or a line end. -/
structure Writes (written : List Char) (value : Value) : Prop where
  begins : ∀ rest, skipSpaces (written ++ rest) = written ++ rest
  reads : ∀ stop rest, stop = ',' ∨ stop = '\n' →
    Reads (readValue (written ++ stop :: rest)) value (stop :: rest)

variable {name written rest left : List Char} {value : Value} {table result : Table Value}

theorem readString_plain {opening : List Char} (plain : name.all isPlain = true) :
    Reads (readString opening (name ++ '"' :: rest)) name rest := by
  induction name with
  | nil =>
      rw [List.nil_append, readString]
      exact ⟨_, if_pos rfl⟩
  | cons character others inductionHypothesis =>
      simp only [List.all_cons, isPlain, Bool.and_eq_true, decide_eq_true_eq,
        Bool.not_eq_true', decide_eq_false_iff_not] at plain
      obtain ⟨⟨⟨noQuote, noEscape⟩, noControl⟩, plainOthers⟩ := plain
      obtain ⟨shorter, read⟩ := inductionHypothesis plainOthers
      rw [List.cons_append, readString, if_neg noQuote, if_neg noEscape, if_neg noControl, read]
      exact ⟨_, rfl⟩

/-- A member is read name, colon and value; a brace behind it ends the object, and behind a comma
stand the other members. -/
theorem readMembers_member {next following behind : List Char}
    (readName : Reads (readString ('"' :: rest) rest) name next)
    (colon : skipSpaces next = ':' :: following)
    (readHeld : Reads (readValue (skipSpaces following)) value behind)
    (ends :
      (skipSpaces behind = '\x7d' :: left ∧ table.insert (String.ofList name) value = result) ∨
      ∃ others, skipSpaces behind = ',' :: others ∧ Reads
        (readMembers (table.insert (String.ofList name) value) (skipSpaces others)) result left) :
    Reads (readMembers table ('"' :: rest)) result left := by
  obtain ⟨_, readName⟩ := readName
  obtain ⟨_, readHeld⟩ := readHeld
  rw [readMembers]
  split
  next refused => cases refused.symm.trans readName
  next read =>
    cases read.symm.trans readName
    dsimp only
    split
    next here =>
      cases here.symm.trans colon
      split
      next refused => cases refused.symm.trans readHeld
      next read =>
        cases read.symm.trans readHeld
        rcases ends with ⟨brace, rfl⟩ | ⟨others, comma, _, readRest⟩
        · split
          next there =>
            cases there.symm.trans brace
            exact ⟨_, rfl⟩
          next there => cases there.symm.trans brace
          next noBrace _ => exact absurd brace (noBrace _)
        · split
          next there => cases there.symm.trans comma
          next there =>
            cases there.symm.trans comma
            rw [readRest]
            exact ⟨_, rfl⟩
          next noComma => exact absurd comma (noComma _)
    next noColon => exact absurd colon (noColon _)

theorem readValue_members (begins : skipSpaces written = '"' :: rest)
    (readAll : Reads (readMembers .empty (skipSpaces written)) result left) :
    Reads (readValue ('\x7b' :: written)) (.ofTable result) left := by
  obtain ⟨_, readAll⟩ := readAll
  rw [readValue, if_neg (by decide), if_neg (by decide), if_pos rfl]
  dsimp only
  split
  next closed => cases closed.symm.trans begins
  next =>
    rw [readAll]
    exact ⟨_, rfl⟩

@[simp] theorem skipSpaces_of_not_space {first : Char} (notSpace : isSpace first = false) :
    skipSpaces (first :: rest) = first :: rest := by
  rw [skipSpaces, List.dropWhile_cons_of_neg (by simp [notSpace])]

@[simp] theorem skipSpaces_of_space {first : Char} (space : isSpace first = true) :
    skipSpaces (first :: rest) = skipSpaces rest := by
  rw [skipSpaces, List.dropWhile_cons_of_pos space]
  rfl

/-- A text that writes an object from its first character to its last is a document. -/
theorem read_object_of_readValue
    (readAll : Reads (readValue ('\x7b' :: rest)) value []) :
    Json.read ('\x7b' :: rest) = .ok value := by
  obtain ⟨_, readAll⟩ := readAll
  have readWhole : readValue (skipSpaces ('\x7b' :: rest)) = .ok (value, ⟨[], _⟩) := readAll
  have document : readDocument ('\x7b' :: rest) = .ok value := by
    rw [readDocument, if_neg (by simp), readWhole]
    rfl
  rw [Json.read, document]

theorem readValue_eq_readWord {first : Char} (noQuote : first ≠ '"') (noBracket : first ≠ '[')
    (noBrace : first ≠ '\x7b') : readValue (first :: rest) = readWord (first :: rest) := by
  rw [readValue, if_neg noQuote, if_neg noBracket, if_neg noBrace]

theorem readWord_of_found {text : List Char} {word : List Char × Value}
    (found : words.find? (fun word => word.1.isPrefixOf text) = some word) :
    Reads (readWord text) word.2 (text.drop word.1.length) := by
  rw [readWord]
  split
  next other same =>
    cases same.symm.trans found
    exact ⟨_, rfl⟩
  next none => cases none.symm.trans found

/-- A word writes its value if the reader finds no other word at the start of a text that begins
with it. -/
theorem writes_word {first : Char} {others : List Char} (notSpace : isSpace first = false)
    (noQuote : first ≠ '"') (noBracket : first ≠ '[') (noBrace : first ≠ '\x7b')
    (found : ∀ rest, words.find? (fun word => word.1.isPrefixOf (first :: others ++ rest)) =
      some (first :: others, value)) : Writes (first :: others) value where
  begins _ := skipSpaces_of_not_space notSpace
  reads stop rest _ := by
    have read := readWord_of_found (found (stop :: rest))
    rw [List.drop_left] at read
    rw [List.cons_append, readValue_eq_readWord noQuote noBracket noBrace]
    exact read

theorem writes_boolean (shown : Bool) :
    Writes (Terminal.Config.booleanText shown).toList (.boolean shown) := by
  cases shown with
  | true =>
      exact writes_word rfl (by decide) (by decide) (by decide) fun _ => rfl
  | false =>
      exact writes_word rfl (by decide) (by decide) (by decide) fun _ => rfl

/-- A member in writing, on a line of its own: its name in quotes, a colon and its value. -/
def memberText (name written rest : List Char) : List Char :=
  '\n' :: ' ' :: ' ' :: '"' :: (name ++ '"' :: ':' :: ' ' :: (written ++ rest))

theorem skipSpaces_memberText :
    skipSpaces (memberText name written rest) =
      '"' :: (name ++ '"' :: ':' :: ' ' :: (written ++ rest)) := rfl

theorem readMembers_before_comma (plain : name.all isPlain = true)
    (writes : Writes written value)
    (readRest : Reads
      (readMembers (table.insert (String.ofList name) value) (skipSpaces rest)) result left) :
    Reads (readMembers table (skipSpaces (memberText name written (',' :: rest)))) result left := by
  have colon : skipSpaces (':' :: ' ' :: (written ++ ',' :: rest)) =
      ':' :: ' ' :: (written ++ ',' :: rest) := skipSpaces_of_not_space rfl
  have space : skipSpaces (' ' :: (written ++ ',' :: rest)) = written ++ ',' :: rest :=
    (skipSpaces_of_space rfl).trans (writes.begins _)
  have readHeld : Reads (readValue (skipSpaces (' ' :: (written ++ ',' :: rest)))) value
      (',' :: rest) := by
    rw [space]
    exact writes.reads ',' rest (.inl rfl)
  rw [skipSpaces_memberText]
  exact readMembers_member (readString_plain plain) colon readHeld
    (.inr ⟨rest, skipSpaces_of_not_space rfl, readRest⟩)

theorem readMembers_before_brace (plain : name.all isPlain = true)
    (writes : Writes written value) :
    Reads (readMembers table (skipSpaces (memberText name written ('\n' :: '\x7d' :: left))))
      (table.insert (String.ofList name) value) left := by
  have colon : skipSpaces (':' :: ' ' :: (written ++ '\n' :: '\x7d' :: left)) =
      ':' :: ' ' :: (written ++ '\n' :: '\x7d' :: left) := skipSpaces_of_not_space rfl
  have space : skipSpaces (' ' :: (written ++ '\n' :: '\x7d' :: left)) =
      written ++ '\n' :: '\x7d' :: left := (skipSpaces_of_space rfl).trans (writes.begins _)
  have brace : skipSpaces ('\n' :: '\x7d' :: left) = '\x7d' :: left :=
    (skipSpaces_of_space rfl).trans (skipSpaces_of_not_space rfl)
  have readHeld : Reads (readValue (skipSpaces (' ' :: (written ++ '\n' :: '\x7d' :: left)))) value
      ('\n' :: '\x7d' :: left) := by
    rw [space]
    exact writes.reads '\n' ('\x7d' :: left) (.inr rfl)
  rw [skipSpaces_memberText]
  exact readMembers_member (readString_plain plain) colon readHeld (.inl ⟨brace, rfl⟩)

/-- Members in braces are a document. -/
theorem read_members
    (readAll : Reads (readMembers .empty (skipSpaces (memberText name written rest))) result []) :
    Json.read ('\x7b' :: memberText name written rest) = .ok (.ofTable result) :=
  read_object_of_readValue (readValue_members skipSpaces_memberText readAll)

end Json

namespace Terminal.Config

end Terminal.Config

end StoryGraph
