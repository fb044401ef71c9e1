import Mathlib.Data.List.Forall2
import StoryGraph.Proofs.Loaded
import StoryGraph.Proofs.Words

/-!
The texts of operators, and when they are read. A text writes an operator if it is one of its
symbols, or its name in letters of either case, with blanks around it or none. A condition that is
read from a document has its operator resolved at once, and one that is put into a story by hand
keeps the text until it is tested. That makes no difference to a test: the same text stands for the
same operator, and a text that stands for none is told as it was written.
-/

set_option autoImplicit false

namespace StoryGraph

namespace Comparison

/-- The symbols of an operator. -/
def symbols : Comparison → List String
  | .equal => ["==", "="]
  | .notEqual => ["!=", "~="]
  | .greater => [">"]
  | .less => ["<"]
  | .greaterOrEqual => [">="]
  | .lessOrEqual => ["<="]

/-- A letter of a name, or the same letter in lower case. -/
def EitherCase (letter capital : Char) : Prop := letter = capital ∨ letter = capital.toLower

/-- A word stands for an operator: it is one of its symbols, or its name in letters of either
case. -/
inductive Spelled (comparison : Comparison) (word : List Char) : Prop where
  | symbol {symbol : String} (listed : symbol ∈ comparison.symbols) (same : word = symbol.toList) :
      Spelled comparison word
  | name (letters : List.Forall₂ EitherCase word comparison.name.toList) :
      Spelled comparison word

/-- A text stands for an operator, with blanks around it or none. -/
def WrittenAs (comparison : Comparison) (text : String) : Prop :=
  ∃ before word after, text.toList = before ++ word ++ after ∧ Text.allBlank before = true ∧
    Text.allBlank after = true ∧ comparison.Spelled word

variable {comparison : Comparison} {word : List Char} {text : String}

/-- Of operators with keys of their own, the one with a given key is found. -/
theorem find?_all_eq_some_iff {key : Comparison → List Char} (injective : Function.Injective key) :
    all.find? (fun found => key found = word) = some comparison ↔ key comparison = word := by
  constructor
  · intro found
    simpa using List.find?_some found
  · intro same
    have member : comparison ∈ all := by cases comparison <;> decide
    cases found : all.find? (fun found => key found = word) with
    | none =>
        rw [List.find?_eq_none] at found
        simpa [same] using found comparison member
    | some other =>
        have sameToo : key other = word := by simpa using List.find?_some found
        rw [injective (sameToo.trans same.symm)]

theorem symbol_injective : Function.Injective fun found : Comparison => found.symbol.toList := by
  intro found other same
  cases found <;> cases other <;> first | rfl | exact absurd same (by decide)

theorem name_injective : Function.Injective fun found : Comparison => found.name.toList := by
  intro found other same
  cases found <;> cases other <;> first | rfl | exact absurd same (by decide)

theorem ofSymbol?_eq_some_iff :
    ofSymbol? word = some comparison ↔
      ∃ symbol ∈ comparison.symbols, word = symbol.toList := by
  unfold ofSymbol?
  -- The second symbols of equality and its negation are looked for before the others.
  by_cases tilde : word = ['~', '=']
  · subst tilde
    rw [if_pos rfl]
    cases comparison <;> decide
  · by_cases single : word = ['=']
    · subst single
      rw [if_neg tilde, if_pos rfl]
      cases comparison <;> decide
    · rw [if_neg tilde, if_neg single, find?_all_eq_some_iff symbol_injective]
      cases comparison <;> simp [symbols, symbol, tilde, single, eq_comm]

theorem toUpper_eq_iff {letter capital : Char} (upper : capital.isUpper = true) :
    letter.toUpper = capital ↔ EitherCase letter capital := by
  have capitalStays : capital.toUpper = capital :=
    Char.toUpper_eq_of_not_isLower (Char.not_isLower_of_isUpper upper)
  constructor
  · intro same
    by_cases lower : letter.isLower = true
    · right
      calc
        letter = letter.toLower :=
          (Char.toLower_eq_of_not_isUpper (Char.not_isUpper_of_isLower lower)).symm
        _ = letter.toUpper.toLower := (Char.toLower_toUpper_eq_toLower letter).symm
        _ = capital.toLower := congrArg _ same
    · left
      rwa [Char.toUpper_eq_of_not_isLower lower] at same
  · rintro (rfl | rfl)
    · exact capitalStays
    · rw [Char.toUpper_toLower_eq_toUpper, capitalStays]

theorem map_toUpper_eq_iff {capitals : List Char}
    (upper : ∀ capital ∈ capitals, capital.isUpper = true) :
    word.map Char.toUpper = capitals ↔ List.Forall₂ EitherCase word capitals := by
  induction capitals generalizing word with
  | nil => simp
  | cons capital rest inductionHypothesis =>
      obtain ⟨upperFirst, upperRest⟩ := List.forall_mem_cons.mp upper
      rw [List.forall₂_cons_right_iff, List.map_eq_cons_iff]
      simp only [toUpper_eq_iff upperFirst, inductionHypothesis upperRest]
      tauto

theorem upper_name (comparison : Comparison) :
    ∀ capital ∈ comparison.name.toList, capital.isUpper = true := by
  have upper : comparison.name.toList.all Char.isUpper = true := by cases comparison <;> decide
  exact List.all_eq_true.mp upper

theorem ofName?_eq_some_iff :
    ofName? word = some comparison ↔ List.Forall₂ EitherCase word comparison.name.toList := by
  rw [ofName?, find?_all_eq_some_iff name_injective, ← map_toUpper_eq_iff (upper_name comparison),
    eq_comm]

/-- No symbol is a name. -/
theorem ofName?_eq_none_of_ofSymbol? (found : ofSymbol? word = some comparison) :
    ofName? word = none := by
  obtain ⟨symbol, listed, rfl⟩ := ofSymbol?_eq_some_iff.mp found
  have unnamed : ∀ found : Comparison, ∀ symbol ∈ found.symbols, ofName? symbol.toList = none := by
    intro found
    cases found <;> decide
  exact unnamed comparison symbol listed

@[simp] theorem spelled_iff :
    comparison.Spelled word ↔ (ofSymbol? word).or (ofName? word) = some comparison := by
  rw [Option.or_eq_some_iff]
  constructor
  · rintro (⟨listed, same⟩ | letters)
    · exact .inl (ofSymbol?_eq_some_iff.mpr ⟨_, listed, same⟩)
    · have named := ofName?_eq_some_iff.mpr letters
      right
      refine ⟨?_, named⟩
      cases found : ofSymbol? word with
      | none => rfl
      | some other =>
          rw [ofName?_eq_none_of_ofSymbol? found] at named
          cases named
  · rintro (found | ⟨_, named⟩)
    · obtain ⟨symbol, listed, same⟩ := ofSymbol?_eq_some_iff.mp found
      exact .symbol listed same
    · exact .name (ofName?_eq_some_iff.mp named)

theorem solid_symbol {symbol : String} (listed : symbol ∈ comparison.symbols) :
    ∀ character ∈ symbol.toList, Text.isBlank character = false := by
  have solid : comparison.symbols.all
      (fun symbol => symbol.toList.all (!Text.isBlank ·)) = true := by
    cases comparison <;> decide
  simpa using List.all_eq_true.mp solid symbol listed

theorem solid_name {capital : Char} (listed : capital ∈ comparison.name.toList) :
    Text.isBlank capital = false ∧ Text.isBlank capital.toLower = false := by
  have solid : comparison.name.toList.all
      (fun letter => !Text.isBlank letter && !Text.isBlank letter.toLower) = true := by
    cases comparison <;> decide
  simpa using List.all_eq_true.mp solid capital listed

theorem Spelled.solid (spelled : comparison.Spelled word) :
    ∀ character ∈ word, Text.isBlank character = false := by
  cases spelled with
  | symbol listed same =>
      subst same
      exact solid_symbol listed
  | name letters =>
      intro letter member
      have named := (map_toUpper_eq_iff (upper_name comparison)).mpr letters
      have listed : letter.toUpper ∈ comparison.name.toList :=
        named ▸ List.mem_map_of_mem member
      obtain ⟨solidCapital, solidLower⟩ := solid_name listed
      rcases (toUpper_eq_iff (upper_name comparison _ listed)).mp rfl with same | same
      · rwa [same]
      · rwa [same]

/-- A text stands for an operator exactly if its word does, without the blanks around it. -/
@[simp] theorem writtenAs_iff : comparison.WrittenAs text ↔ ofText? text = some comparison := by
  rw [ofText?, ← spelled_iff]
  constructor
  · rintro ⟨before, word, after, whole, blankBefore, blankAfter, spelled⟩
    rwa [whole, Text.trim_append spelled.solid blankBefore blankAfter]
  · intro spelled
    obtain ⟨before, after, blankBefore, blankAfter, whole⟩ := Text.exists_trim text.toList
    exact ⟨before, _, after, whole, blankBefore, blankAfter, spelled⟩

end Comparison

/-- A condition in writing: its operator as a text, its variable, its operand and its body. -/
structure Members.Condition (members : Members) (text name : String) (operand : Scalar)
    (body : Item) : Prop where
  typed : members.Has "type" (.string "condition")
  operated : members.Has "operator" (.string text)
  named : members.First "var" "variable" (.string name)
  compared : members.Compares operand
  leads : ∃ content, members.First "then" "content" content ∧ content ≠ .nil ∧ content.Writes body

theorem Members.Condition.writes {members : Members} {text name : String} {operand : Scalar}
    {body : Item} (condition : members.Condition text name operand body) :
    (Value.dict members).Writes (.condition ⟨name, .ofText text, .scalar operand⟩ body) := by
  obtain ⟨content, leads, present, wrapped⟩ := condition.leads
  have tested : members.Tests ⟨name, .ofText text, .scalar operand⟩ :=
    .test condition.named (.written condition.operated) condition.compared
  exact .condition condition.typed leads present tested wrapped

namespace Operator

variable {text : String} {comparison : Comparison}

@[simp] theorem resolve_written_iff :
    (Operator.written (.string text)).resolve = .ok comparison ↔ comparison.WrittenAs text := by
  rw [Comparison.writtenAs_iff]
  cases named : Comparison.ofText? text <;> simp [resolve, Value.string, named]

theorem resolve_written_of_unknown
    (unknown : ∀ comparison : Comparison, ¬ comparison.WrittenAs text) :
    (Operator.written (.string text)).resolve = .error ⟨.string text⟩ := by
  cases named : Comparison.ofText? text with
  | none => simp [resolve, Value.string, named]
  | some comparison => exact absurd (Comparison.writtenAs_iff.mpr named) (unknown comparison)

end Operator

namespace Stage

/-- A test looks at its operator only through what it is resolved to. -/
theorem evaluate_congr {operator other : Operator} (same : operator.resolve = other.resolve)
    (stage : Stage) (state : State) (name : String) (operand : Value) :
    stage.evaluate state ⟨name, operator, operand⟩ =
      stage.evaluate state ⟨name, other, operand⟩ := by
  simp only [evaluate, same]

/-- For every text: it is resolved to an operator exactly if it writes that operator. A condition
that is read with the text as its operator, at any place of a document, is evaluated like one that
keeps the text, whatever the stage and the state; and if the text writes no operator, then both are
told as unknown, with the text as it stands in the document, and do not hold. -/
theorem operators_read_early_or_late (text : String) :
    (∀ comparison : Comparison,
      (Operator.written (.string text)).resolve = .ok comparison ↔ comparison.WrittenAs text) ∧
    (∀ (place : Place) (members : Members) (name : String) (operand : Scalar) (body : Item),
      members.Condition text name operand body →
        ∃ operator,
          Shape.item place (.dict members) =
              .ok (.condition ⟨name, operator, .scalar operand⟩ body) ∧
            ∀ (stage : Stage) (state : State),
              stage.evaluate state ⟨name, operator, .scalar operand⟩ =
                stage.evaluate state ⟨name, .written (.string text), .scalar operand⟩) ∧
    ((∀ comparison : Comparison, ¬ comparison.WrittenAs text) →
      ∀ (stage : Stage) (state : State) (name : String) (operand : Value),
        ∃ notice : Notice,
          notice.diagnostic = ⟨"WARN", "UNKNOWN_OPERATOR",
              "Unknown comparison operator: " ++ Text.quoted text,
              .ofList [("variable", name)]⟩ ∧
            stage.evaluate state ⟨name, .written (.string text), operand⟩ =
              (stage.report state notice).andThen fun state _ => (state, .ok false)) := by
  refine ⟨fun _ => Operator.resolve_written_iff, ?_, ?_⟩
  · intro place members name operand body condition
    refine ⟨.ofText text, Shape.item_of_writes condition.writes, ?_⟩
    intro stage state
    exact evaluate_congr (Operator.resolve_ofText text) stage state name _
  · intro unknown stage state name operand
    refine ⟨.unknownOperator name ⟨.string text⟩, ?_, ?_⟩
    · rfl
    · rw [evaluate, Operator.resolve_written_of_unknown unknown]

/-- A name in lower case with a line feed behind it, and two signs the wrong way round. -/
theorem operators_read_early_or_late_at_least :
    let members : Members := [("type", .string "condition"), ("operator", .string " ge\n"),
      ("var", .string "gold"), ("operand", .int 3), ("then", .string "Rich.")]
    let stage := Stage.ofKnots [("start", [])]
    Comparison.greaterOrEqual.WrittenAs " ge\n" ∧
      members.Condition " ge\n" "gold" (.number (.int 3)) (.bare "Rich.") ∧
      (∃ operator,
        Shape.item (.entry (.knot "start") 0) (.dict members) =
            .ok (.condition ⟨"gold", operator, .int 3⟩ (.bare "Rich.")) ∧
          stage.evaluate (.opening "start") ⟨"gold", operator, .int 3⟩ =
            stage.evaluate (.opening "start") ⟨"gold", .written (.string " ge\n"), .int 3⟩) ∧
      (∀ comparison : Comparison, ¬ comparison.WrittenAs " =>") ∧
      ∃ notice : Notice,
        notice.diagnostic.message = "Unknown comparison operator: ' =>'" ∧
          stage.evaluate (.opening "start") ⟨"gold", .written (.string " =>"), .int 3⟩ =
            (stage.report (.opening "start") notice).andThen fun state _ => (state, .ok false) := by
  intro members stage
  obtain ⟨known, alike, _⟩ := operators_read_early_or_late " ge\n"
  obtain ⟨_, _, told⟩ := operators_read_early_or_late " =>"
  have condition : members.Condition " ge\n" "gold" (.number (.int 3)) (.bare "Rich.") :=
    ⟨rfl, rfl, .first rfl, .written (.second rfl rfl), _, .first rfl, nofun, .bare⟩
  have unknown : ∀ comparison : Comparison, ¬ comparison.WrittenAs " =>" := by
    intro comparison written
    have none : Comparison.ofText? " =>" = none := by decide
    rw [Comparison.writtenAs_iff, none] at written
    cases written
  have resolved : (Operator.written (.string " ge\n")).resolve = .ok .greaterOrEqual := rfl
  refine ⟨(known _).mp resolved, condition, ?_, unknown, ?_⟩
  · obtain ⟨operator, read, same⟩ := alike (.entry (.knot "start") 0) _ _ _ _ condition
    exact ⟨operator, read, same stage _⟩
  · obtain ⟨notice, diagnostic, evaluated⟩ := told unknown stage (.opening "start") "gold" (.int 3)
    refine ⟨notice, ?_, evaluated⟩
    rw [diagnostic]
    decide

end Stage

end StoryGraph
