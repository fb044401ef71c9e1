import Mathlib.Data.List.Forall2
import StoryGraph.Story.Shape

/-!
The grammar of stories in writing: `Value.Writes` has a rule for each way in which a value writes
an item. Of two names for one member the first that is there counts, even if it holds null; most
members may be missing or null, but a value that is set has to be there, an operator must not be
null, and what a condition leads to must be there and not null. Whatever has no known type writes
an item that is not understood.

Reading gives what is written and nothing else, each item in its place.
-/

set_option autoImplicit false

namespace StoryGraph

/-- The operator that a text stands for; a text that names none is kept. -/
def Operator.ofText (text : String) : Operator :=
  match Comparison.ofText? text with
  | some comparison => .known comparison
  | none => .written (.string text)

namespace Members

def Has (members : Members) (name : String) (value : Value) : Prop :=
  Table.valueOf? name members = some value

/-- A member is missing or null. -/
def Lacks (members : Members) (name : String) : Prop :=
  Table.valueOf? name members = none ∨ members.Has name .nil

/-- The first of two members that is there. -/
inductive First (members : Members) (name other : String) (value : Value) : Prop where
  | first (here : members.Has name value) : First members name other value
  | second (absent : Table.valueOf? name members = none) (here : members.Has other value) :
      First members name other value

/-- A text, or nothing where the member is missing or null. -/
inductive Optional (members : Members) (name : String) : Option String → Prop where
  | lacking (lacks : members.Lacks name) : Optional members name none
  | text {text} (here : members.Has name (.string text)) : Optional members name (some text)

inductive Tags (members : Members) : List String → Prop where
  | lacking (lacks : members.Lacks "tags") : Tags members []
  | listed {tags} (here : members.Has "tags" (.list (tags.map Value.string))) : Tags members tags

inductive Assigns (members : Members) : Option (Table Value) → Prop where
  | lacking (lacks : members.Lacks "set") : Assigns members none
  | listed {set} (here : members.Has "set" (.dict set))
      (scalars : ∀ entry ∈ set, ∃ scalar, entry.2 = .scalar scalar) :
      Assigns members (some (.ofList set))

/-- The text of an operator; equality is meant where none is written. -/
inductive OperatorText (members : Members) : String → Prop where
  | standard (absent : Table.valueOf? "operator" members = none) : OperatorText members "=="
  | written {text} (here : members.Has "operator" (.string text)) : OperatorText members text

/-- The scalar that a condition compares with; nil is meant where none is written. -/
inductive Compares (members : Members) : Scalar → Prop where
  | standard (absent : Table.valueOf? "value" members = none)
      (absentToo : Table.valueOf? "operand" members = none) : Compares members .nil
  | written {scalar} (here : members.First "value" "operand" (.scalar scalar)) :
      Compares members scalar

inductive Tests (members : Members) : Test → Prop where
  | test {name operator operand} (named : members.First "var" "variable" (.string name))
      (operated : members.OperatorText operator) (compared : members.Compares operand) :
      Tests members ⟨name, .ofText operator, .scalar operand⟩

end Members

/-- The types of items that are understood. -/
def knownTypes : List String := ["text", "choice", "divert", "set", "condition"]

inductive Value.WritesOption : Value → ChoiceOption → Prop where
  | bare {label} : WritesOption (.string label) (.bare label)
  | full {members : Members} {label target assignments}
      (labelled : members.Has "label" (.string label))
      (leads : members.Optional "divert" target) (assigns : members.Assigns assignments) :
      WritesOption (.dict members) (.full label target assignments)

inductive Value.Writes : Value → Item → Prop where
  | bare {body} : Writes (.string body) (.bare body)
  | plain {value} (noText : ∀ body, value ≠ .string body)
      (noObject : ∀ members, value ≠ .dict members) :
      Writes value (.unrecognized value.typeName (.dict [("value", value)]))
  | untyped {members : Members} (untyped : ∀ kind, ¬ members.Has "type" (.string kind)) :
      Writes (.dict members)
        (.unrecognized (Shape.kindName (members.field "type")) (.dict members))
  | unknown {members : Members} {kind} (typed : members.Has "type" (.string kind))
      (unknown : kind ∉ knownTypes) :
      Writes (.dict members)
        (.unrecognized kind (.dict (members.filter fun member => member.1 ≠ "type")))
  | text {members : Members} {body speaker tags} (typed : members.Has "type" (.string "text"))
      (said : members.First "body" "content" (.string body))
      (spoken : members.Optional "speaker" speaker) (tagged : members.Tags tags) :
      Writes (.dict members) (.line ⟨body, speaker, tags⟩)
  | choice {members : Members} {prompt entries options}
      (typed : members.Has "type" (.string "choice")) (asked : members.Optional "prompt" prompt)
      (listed : members.Has "options" (.list entries))
      (offered : List.Forall₂ Value.WritesOption entries options) :
      Writes (.dict members) (.choice ⟨prompt, options⟩)
  | divert {members : Members} {target} (typed : members.Has "type" (.string "divert"))
      (leads : members.Has "target" (.string target)) : Writes (.dict members) (.divert target)
  | set {members : Members} {name scalar} (typed : members.Has "type" (.string "set"))
      (valued : members.Has "value" (.scalar scalar))
      (named : members.First "var" "variable" (.string name)) :
      Writes (.dict members) (.set name (.scalar scalar))
  | condition {members : Members} {test content body}
      (typed : members.Has "type" (.string "condition"))
      (leads : members.First "then" "content" content) (present : content ≠ .nil)
      (tested : members.Tests test) (wrapped : Writes content body) :
      Writes (.dict members) (.condition test body)

/-- A value that writes an item. -/
def Value.WellFormed (value : Value) : Prop := ∃ item, value.Writes item

/-- A knot in writing and a knot of a story, with the items of the one in their places in the
other. -/
def WritesKnot (written : String × Value) (knot : String × List Item) : Prop :=
  knot.1 = written.1 ∧
    ∃ entries, written.2 = .list entries ∧ List.Forall₂ Value.Writes entries knot.2

@[simp] theorem Value.isNil_iff {value : Value} : value.isNil = true ↔ value = .nil := by
  unfold isNil Value.nil
  split <;> simp_all

namespace Members

variable {members : Members} {name other : String} {value : Value}

@[simp] theorem field_eq_nil_iff : members.field name = .nil ↔ members.Lacks name := by
  unfold field Lacks Has
  cases Table.valueOf? name members <;> simp

theorem field_eq_iff (notNil : value ≠ .nil) :
    members.field name = value ↔ members.Has name value := by
  unfold field Has
  cases Table.valueOf? name members with
  | none => simp [Ne.symm notNil]
  | some found => simp

theorem firstOf_eq_iff (notNil : value ≠ .nil) :
    members.firstOf name other = value ↔ members.First name other value := by
  have here : members.First name other value ↔
      members.Has name value ∨
        Table.valueOf? name members = none ∧ members.Has other value := by
    constructor
    · rintro (here | ⟨absent, here⟩)
      · exact .inl here
      · exact .inr ⟨absent, here⟩
    · rintro (here | ⟨absent, here⟩)
      · exact .first here
      · exact .second absent here
  rw [here]
  unfold firstOf Has
  cases Table.valueOf? name members with
  | some found => simp
  | none => cases Table.valueOf? other members <;> simp [Ne.symm notNil]

@[simp] theorem field_eq_string {text : String} :
    members.field name = .string text ↔ members.Has name (.string text) :=
  field_eq_iff (by simp [Value.string, Value.nil])

@[simp] theorem field_eq_list {values : List Value} :
    members.field name = .list values ↔ members.Has name (.list values) :=
  field_eq_iff (by simp [Value.nil])

@[simp] theorem field_eq_dict {entries : Members} :
    members.field name = .dict entries ↔ members.Has name (.dict entries) :=
  field_eq_iff (by simp [Value.nil])

@[simp] theorem firstOf_eq_string {text : String} :
    members.firstOf name other = .string text ↔ members.First name other (.string text) :=
  firstOf_eq_iff (by simp [Value.string, Value.nil])

theorem firstOf_eq_nil_of_absent (absent : Table.valueOf? name members = none)
    (absentToo : Table.valueOf? other members = none) : members.firstOf name other = .nil := by
  simp [firstOf, absent, absentToo]

/-- Where the first of two members is read as nil, it is nil or neither is there. -/
theorem first_of_firstOf_eq_nil (read : members.firstOf name other = .nil) :
    members.First name other .nil ∨
      Table.valueOf? name members = none ∧ Table.valueOf? other members = none := by
  unfold firstOf at read
  cases here : Table.valueOf? name members with
  | some found =>
      rw [here] at read
      cases read
      exact .inl (.first here)
  | none =>
      cases there : Table.valueOf? other members with
      | some found =>
          rw [here, there] at read
          cases read
          exact .inl (.second here there)
      | none => exact .inr ⟨rfl, rfl⟩

theorem firstOf_eq_of_first {value : Value} (first : members.First name other value) :
    members.firstOf name other = value := by
  unfold firstOf
  rcases first with here | ⟨absent, here⟩
  · rw [show Table.valueOf? name members = some value from here]
    rfl
  · rw [absent, show Table.valueOf? other members = some value from here]
    rfl

end Members

namespace Shape

variable {α β : Type} {place : Place} {members : Members} {name : String}

theorem bind_eq_ok {reading : Except Problem α} {next : α → Except Problem β} {result : β} :
    (reading >>= next) = .ok result ↔
      ∃ middle, reading = .ok middle ∧ next middle = .ok result := by
  cases reading with
  | error problem => simp [bind, Except.bind]
  | ok middle => simp [bind, Except.bind]

theorem map_eq_ok {reading : Except Problem α} {change : α → β} {result : β} :
    reading.map change = .ok result ↔ ∃ middle, reading = .ok middle ∧ change middle = result := by
  cases reading <;> simp [Except.map]

@[simp] theorem string_eq_ok {value : Value} {text : String} :
    string place value = .ok text ↔ value = .string text := by
  unfold string Value.string
  split <;> simp_all

theorem scalar_eq_ok {value result : Value} :
    scalar place value = .ok result ↔ ∃ held, value = .scalar held ∧ result = .scalar held := by
  unfold scalar
  split <;> simp_all [eq_comm]

@[simp] theorem optionalString_eq_ok {result : Option String} :
    optionalString place (members.field name) = .ok result ↔ members.Optional name result := by
  constructor
  · intro read
    unfold optionalString at read
    split at read
    next nothing =>
      cases read
      exact .lacking (members.field_eq_nil_iff.mp nothing)
    next text found =>
      cases read
      exact .text (members.field_eq_string.mp found)
    next => cases read
  · rintro (lacks | here)
    · rw [members.field_eq_nil_iff.mpr lacks]
      rfl
    · rw [members.field_eq_string.mpr here]
      rfl

@[simp] theorem tagsFrom_eq_ok {index : Nat} {values : List Value} {tags : List String} :
    tagsFrom place index values = .ok tags ↔ values = tags.map .string := by
  induction values generalizing index tags with
  | nil => cases tags <;> simp [tagsFrom]
  | cons value rest inductionHypothesis =>
      simp only [tagsFrom, bind_eq_ok, string_eq_ok, inductionHypothesis]
      cases tags with
      | nil => simp [pure, Except.pure]
      | cons tag others => simp [pure, Except.pure]

@[simp] theorem tags_eq_ok {result : List String} :
    tags place (members.field "tags") = .ok result ↔ members.Tags result := by
  constructor
  · intro read
    unfold tags at read
    split at read
    next nothing =>
      cases read
      exact .lacking (members.field_eq_nil_iff.mp nothing)
    next values found =>
      have here := members.field_eq_list.mp found
      rw [tagsFrom_eq_ok] at read
      subst read
      exact .listed here
    next => cases read
  · rintro (lacks | here)
    · rw [members.field_eq_nil_iff.mpr lacks]
      rfl
    · rw [members.field_eq_list.mpr here]
      exact tagsFrom_eq_ok.mpr rfl

theorem scalars_eq_ok {set : Members} {result : List (String × Value)} :
    scalars place set = .ok result ↔
      result = set ∧ ∀ entry ∈ set, ∃ held, entry.2 = .scalar held := by
  induction set generalizing result with
  | nil => simp [scalars, eq_comm]
  | cons entry rest inductionHypothesis =>
      obtain ⟨name, value⟩ := entry
      simp only [scalars, bind_eq_ok, scalar_eq_ok, inductionHypothesis, List.forall_mem_cons]
      constructor
      · rintro ⟨_, ⟨held, rfl, rfl⟩, _, ⟨rfl, rest⟩, same⟩
        cases same
        exact ⟨rfl, ⟨held, rfl⟩, rest⟩
      · rintro ⟨rfl, ⟨held, same⟩, rest⟩
        cases same
        exact ⟨_, ⟨held, rfl, rfl⟩, _, ⟨rfl, rest⟩, rfl⟩

@[simp] theorem assignments_eq_ok {result : Option (Table Value)} :
    assignments place (members.field "set") = .ok result ↔ members.Assigns result := by
  constructor
  · intro read
    unfold assignments at read
    split at read
    next nothing =>
      cases read
      exact .lacking (members.field_eq_nil_iff.mp nothing)
    next set found =>
      have here := members.field_eq_dict.mp found
      obtain ⟨_, listed, same⟩ := bind_eq_ok.mp read
      obtain ⟨rfl, held⟩ := scalars_eq_ok.mp listed
      cases same
      exact .listed here held
    next => cases read
  · rintro (lacks | ⟨here, held⟩)
    · rw [members.field_eq_nil_iff.mpr lacks]
      rfl
    · rw [members.field_eq_dict.mpr here]
      exact bind_eq_ok.mpr ⟨_, scalars_eq_ok.mpr ⟨rfl, held⟩, rfl⟩

@[simp] theorem option_eq_ok {value : Value} {result : ChoiceOption} :
    option place value = .ok result ↔ value.WritesOption result := by
  constructor
  · intro read
    unfold option at read
    split at read
    next label =>
      cases read
      exact .bare
    next members =>
      simp only [bind_eq_ok, string_eq_ok, optionalString_eq_ok, assignments_eq_ok] at read
      obtain ⟨label, labelled, target, leads, set, assigns, same⟩ := read
      cases same
      exact .full (Members.field_eq_string.mp labelled) leads assigns
    next => cases read
  · rintro (_ | ⟨labelled, leads, assigns⟩)
    · rfl
    · refine bind_eq_ok.mpr ⟨_, string_eq_ok.mpr (Members.field_eq_string.mpr labelled), ?_⟩
      refine bind_eq_ok.mpr ⟨_, optionalString_eq_ok.mpr leads, ?_⟩
      exact bind_eq_ok.mpr ⟨_, assignments_eq_ok.mpr assigns, rfl⟩

@[simp] theorem optionsFrom_eq_ok {index : Nat} {entries : List Value}
    {result : List ChoiceOption} :
    optionsFrom place index entries = .ok result ↔
      List.Forall₂ Value.WritesOption entries result := by
  induction entries generalizing index result with
  | nil => simp [optionsFrom, eq_comm]
  | cons entry rest inductionHypothesis =>
      simp only [optionsFrom, bind_eq_ok, option_eq_ok, inductionHypothesis,
        List.forall₂_cons_left_iff]
      constructor
      · rintro ⟨first, writes, others, rest, same⟩
        cases same
        exact ⟨first, others, writes, rest, rfl⟩
      · rintro ⟨first, others, writes, rest, rfl⟩
        exact ⟨first, writes, others, rest, rfl⟩

theorem options_eq_ok {result : List ChoiceOption} :
    options place (members.field "options") = .ok result ↔
      ∃ entries, members.Has "options" (.list entries) ∧
        List.Forall₂ Value.WritesOption entries result := by
  constructor
  · intro read
    unfold options at read
    split at read
    next entries found =>
      exact ⟨entries, members.field_eq_list.mp found, optionsFrom_eq_ok.mp read⟩
    next => cases read
  · rintro ⟨entries, here, offered⟩
    rw [members.field_eq_list.mpr here]
    exact optionsFrom_eq_ok.mpr offered

@[simp] theorem line_eq_ok {result : Line} :
    line place members = .ok result ↔
      members.First "body" "content" (.string result.body) ∧
        members.Optional "speaker" result.speaker ∧ members.Tags result.tags := by
  simp only [line, bind_eq_ok, string_eq_ok, Members.firstOf_eq_string, optionalString_eq_ok,
    tags_eq_ok]
  constructor
  · rintro ⟨body, said, speaker, spoken, tags, tagged, same⟩
    cases same
    exact ⟨said, spoken, tagged⟩
  · rintro ⟨said, spoken, tagged⟩
    exact ⟨_, said, _, spoken, _, tagged, rfl⟩

theorem choice_eq_ok {result : Choice} :
    choice place members = .ok result ↔
      members.Optional "prompt" result.prompt ∧
        ∃ entries, members.Has "options" (.list entries) ∧
          List.Forall₂ Value.WritesOption entries result.options := by
  simp only [choice, bind_eq_ok, optionalString_eq_ok, options_eq_ok]
  constructor
  · rintro ⟨prompt, asked, options, offered, same⟩
    cases same
    exact ⟨asked, offered⟩
  · rintro ⟨asked, offered⟩
    exact ⟨_, asked, _, offered, rfl⟩

theorem setting_eq_ok {result : Item} :
    setting place members = .ok result ↔
      ∃ name held, members.Has "value" (.scalar held) ∧
        members.First "var" "variable" (.string name) ∧ result = .set name (.scalar held) := by
  unfold setting
  cases here : Table.valueOf? "value" members with
  | none => simp [Members.Has, here]
  | some value =>
      simp only [bind_eq_ok, string_eq_ok, Members.firstOf_eq_string, scalar_eq_ok, Members.Has,
        here, Option.some.injEq]
      constructor
      · rintro ⟨name, named, _, ⟨held, rfl, rfl⟩, same⟩
        cases same
        exact ⟨name, held, rfl, named, rfl⟩
      · rintro ⟨name, held, rfl, named, rfl⟩
        exact ⟨name, named, _, ⟨held, rfl, rfl⟩, rfl⟩

theorem operator_eq_ok {result : Operator} :
    operator place members = .ok result ↔
      ∃ text, members.OperatorText text ∧ result = .ofText text := by
  unfold operator
  cases here : Table.valueOf? "operator" members with
  | none =>
      have standard : Operator.ofText "==" = .known .equal := by
        have equality : Comparison.ofText? "==" = some .equal := by decide +kernel
        rw [Operator.ofText, equality]
      constructor
      · intro read
        cases read
        exact ⟨"==", .standard here, standard.symm⟩
      · rintro ⟨text, absent | there, rfl⟩
        · rw [standard]
          rfl
        · rw [Members.Has, here] at there
          cases there
  | some value =>
      simp only [bind_eq_ok, string_eq_ok]
      constructor
      · rintro ⟨text, rfl, read⟩
        refine ⟨text, .written here, ?_⟩
        rw [Operator.ofText]
        cases named : Comparison.ofText? text <;> rw [named] at read <;> cases read <;> rfl
      · rintro ⟨text, absent | there, rfl⟩
        · rw [here] at absent
          cases absent
        · rw [Members.Has, here] at there
          cases there
          refine ⟨text, rfl, ?_⟩
          rw [Operator.ofText]
          cases Comparison.ofText? text <;> rfl

theorem operand_eq_ok {result : Value} :
    scalar place (members.firstOf "value" "operand") = .ok result ↔
      ∃ held, members.Compares held ∧ result = .scalar held := by
  rw [scalar_eq_ok]
  constructor
  · rintro ⟨held, read, rfl⟩
    refine ⟨held, ?_, rfl⟩
    by_cases isNil : held = .nil
    · subst isNil
      rcases Members.first_of_firstOf_eq_nil read with here | ⟨absent, absentToo⟩
      · exact .written here
      · exact .standard absent absentToo
    · exact .written ((Members.firstOf_eq_iff (by simpa [Value.nil] using isNil)).mp read)
  · rintro ⟨held, absent | here, rfl⟩
    · exact ⟨.nil, Members.firstOf_eq_nil_of_absent absent ‹_›, rfl⟩
    · exact ⟨held, Members.firstOf_eq_of_first here, rfl⟩

@[simp] theorem test_eq_ok {result : Test} :
    test place members = .ok result ↔ members.Tests result := by
  simp only [test, bind_eq_ok, operator_eq_ok, string_eq_ok, Members.firstOf_eq_string,
    operand_eq_ok]
  constructor
  · rintro ⟨_, ⟨text, operated, rfl⟩, name, named, _, ⟨held, compared, rfl⟩, same⟩
    cases same
    exact .test named operated compared
  · rintro ⟨named, operated, compared⟩
    exact ⟨_, ⟨_, operated, rfl⟩, _, named, _, ⟨_, compared, rfl⟩, rfl⟩

theorem writes_of_item {value : Value} {result : Item} (read : item place value = .ok result) :
    value.Writes result := by
  fun_induction item place value generalizing result with
  | case1 place body =>
      cases read
      exact .bare
  | case2 place members typed =>
      obtain ⟨spoken, lined, rfl⟩ := map_eq_ok.mp read
      obtain ⟨said, spoken, tagged⟩ := line_eq_ok.mp lined
      exact .text (Members.field_eq_string.mp typed) said spoken tagged
  | case3 place members typed =>
      obtain ⟨offered, chosen, rfl⟩ := map_eq_ok.mp read
      obtain ⟨asked, entries, listed, options⟩ := choice_eq_ok.mp chosen
      exact .choice (Members.field_eq_string.mp typed) asked listed options
  | case4 place members typed =>
      obtain ⟨target, leads, rfl⟩ := map_eq_ok.mp read
      rw [string_eq_ok, Members.field_eq_string] at leads
      exact .divert (Members.field_eq_string.mp typed) leads
  | case5 place members typed =>
      obtain ⟨name, held, valued, named, rfl⟩ := setting_eq_ok.mp read
      exact .set (Members.field_eq_string.mp typed) valued named
  | case6 => cases read
  | case7 => cases read
  | case8 place members present test tested typed _ _ _ _ inductionHypothesis =>
      obtain ⟨body, wrapped, rfl⟩ := map_eq_ok.mp read
      rw [Value.isNil_iff] at present
      have leads := (Members.firstOf_eq_iff present).mp rfl
      exact .condition (Members.field_eq_string.mp typed) leads present (test_eq_ok.mp tested)
        (inductionHypothesis wrapped)
  | case9 place members kind typed noText noChoice noDivert noSet noCondition =>
      cases read
      refine .unknown (Members.field_eq_string.mp typed) ?_
      simp [knownTypes, noText, noChoice, noDivert, noSet, noCondition]
  | case10 place members untyped =>
      cases read
      exact .untyped fun kind typed => untyped kind (Members.field_eq_string.mpr typed)
  | case11 place value noText noObject =>
      cases read
      exact .plain (fun body same => noText body same) (fun members same => noObject members same)

theorem item_of_writes {value : Value} {result : Item} (writes : value.Writes result) :
    item place value = .ok result := by
  induction writes generalizing place with
  | bare => rw [Value.string, item]
  | @plain value noText noObject =>
      unfold item
      split
      next body => exact absurd rfl (noText body)
      next members => exact absurd rfl (noObject members)
      next => rfl
  | @untyped members untyped =>
      unfold item
      split
      next kind typed => exact absurd (Members.field_eq_string.mp typed) (untyped kind)
      next => rfl
  | @unknown members kind typed unknown =>
      simp only [knownTypes, List.mem_cons, List.not_mem_nil, or_false, not_or] at unknown
      obtain ⟨noText, noChoice, noDivert, noSet, noCondition⟩ := unknown
      rw [item, Members.field_eq_string.mpr typed]
      simp only [Value.string, noText, noChoice, noDivert, noSet, noCondition, if_false]
  | text typed said spoken tagged =>
      rw [item, Members.field_eq_string.mpr typed]
      exact map_eq_ok.mpr ⟨_, line_eq_ok.mpr ⟨said, spoken, tagged⟩, rfl⟩
  | choice typed asked listed offered =>
      rw [item, Members.field_eq_string.mpr typed]
      exact map_eq_ok.mpr ⟨_, choice_eq_ok.mpr ⟨asked, _, listed, offered⟩, rfl⟩
  | divert typed leads =>
      rw [item, Members.field_eq_string.mpr typed]
      exact map_eq_ok.mpr ⟨_, string_eq_ok.mpr (Members.field_eq_string.mpr leads), rfl⟩
  | set typed valued named =>
      rw [item, Members.field_eq_string.mpr typed]
      exact setting_eq_ok.mpr ⟨_, _, valued, named, rfl⟩
  | @condition members test content body typed leads present tested _ inductionHypothesis =>
      have notNil : ¬ content.isNil = true := mt Value.isNil_iff.mp present
      rw [item, Members.field_eq_string.mpr typed]
      simp only [Value.string, Members.firstOf_eq_of_first leads, notNil,
        test_eq_ok.mpr tested, inductionHypothesis]
      rfl

/-- Reading gives what is written, at every place. -/
@[simp] theorem item_eq_ok {value : Value} {result : Item} :
    item place value = .ok result ↔ value.Writes result := ⟨writes_of_item, item_of_writes⟩

@[simp] theorem itemsFrom_eq_ok {index : Nat} {entries : List Value} {result : List Item} :
    itemsFrom place index entries = .ok result ↔ List.Forall₂ Value.Writes entries result := by
  induction entries generalizing index result with
  | nil => simp [itemsFrom, eq_comm]
  | cons entry rest inductionHypothesis =>
      simp only [itemsFrom, bind_eq_ok, item_eq_ok, inductionHypothesis,
        List.forall₂_cons_left_iff]
      constructor
      · rintro ⟨first, writes, others, rest, same⟩
        cases same
        exact ⟨first, others, writes, rest, rfl⟩
      · rintro ⟨first, others, writes, rest, rfl⟩
        exact ⟨first, writes, others, rest, rfl⟩

@[simp] theorem knot_eq_ok {value : Value} {result : List Item} :
    knot name value = .ok result ↔ WritesKnot (name, value) (name, result) := by
  unfold knot
  split
  next entries => simp [itemsFrom_eq_ok, WritesKnot]
  next noList => simpa [WritesKnot] using fun entries same => (noList entries same).elim

@[simp] theorem knots_eq_ok {raw : Members} {result : List (String × List Item)} :
    knots raw = .ok result ↔ List.Forall₂ WritesKnot raw result := by
  induction raw generalizing result with
  | nil => simp [knots, eq_comm]
  | cons member rest inductionHypothesis =>
      obtain ⟨name, value⟩ := member
      simp only [knots, bind_eq_ok, knot_eq_ok, inductionHypothesis, List.forall₂_cons_left_iff]
      constructor
      · rintro ⟨items, writes, others, rest, same⟩
        cases same
        exact ⟨(name, items), others, writes, rest, rfl⟩
      · rintro ⟨⟨_, items⟩, others, ⟨rfl, writes⟩, rest, rfl⟩
        exact ⟨items, ⟨rfl, writes⟩, others, rest, rfl⟩

end Shape

theorem keys_of_writesKnot {written : Members} {knots : List (String × List Item)}
    (writes : List.Forall₂ WritesKnot written knots) :
    knots.map Prod.fst = written.map Prod.fst := by
  induction writes with
  | nil => rfl
  | cons first _ inductionHypothesis =>
      rw [List.map_cons, List.map_cons, first.1, inductionHypothesis]

/-- A story is read from what writes it, knot by knot and item by item, each in its place. -/
@[simp] theorem Story.ofMembers_eq_ok {raw : Table Value} {story : Story} :
    Story.ofMembers raw.entries = .ok story ↔
      List.Forall₂ WritesKnot raw.entries story.entries := by
  unfold ofMembers
  rw [Shape.map_eq_ok]
  constructor
  · rintro ⟨knots, read, rfl⟩
    have writes := Shape.knots_eq_ok.mp read
    have distinct : (knots.map Prod.fst).Nodup := keys_of_writesKnot writes ▸ raw.distinct
    rwa [Table.entries_ofList distinct]
  · intro writes
    exact ⟨story.entries, Shape.knots_eq_ok.mpr writes, Table.ofList_entries story⟩

end StoryGraph
