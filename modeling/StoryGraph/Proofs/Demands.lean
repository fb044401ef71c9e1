import StoryGraph.Proofs.Grammar

/-!
What reading asks of a story in writing, in the order in which it is asked: the knots in their
order, in a knot its entries, and in an entry its members. Where all that is asked is so, a story
is read; else reading stops at the first demand that is not met, with its problem.

A demand made behind one that is not met may ask about members of something that has none; it is
never reached.
-/

set_option autoImplicit false

namespace StoryGraph

/-- Something that is asked of a value, and the problem if it is not so. -/
structure Demand where
  problem : Problem
  Met : Prop

/-- The first of some demands that is not met has a problem. -/
inductive FirstUnmet : List Demand → Problem → Prop where
  | here {demand rest} (unmet : ¬ demand.Met) : FirstUnmet (demand :: rest) demand.problem
  | later {demand rest problem} (met : demand.Met) (first : FirstUnmet rest problem) :
      FirstUnmet (demand :: rest) problem

/-- The values of a list. -/
def Value.listed : Value → List Value
  | .list values => values
  | _ => []

/-- The members of an object. -/
def Value.members : Value → Members
  | .dict members => members
  | _ => []

namespace Demand

def string (place : Place) (value : Value) : Demand :=
  ⟨⟨place, .notString⟩, ∃ text, value = .string text⟩

def optionalString (place : Place) (value : Value) : Demand :=
  ⟨⟨place, .notOptionalString⟩, value = .nil ∨ ∃ text, value = .string text⟩

def scalar (place : Place) (value : Value) : Demand :=
  ⟨⟨place, .notScalar⟩, ∃ held, value = .scalar held⟩

def list (place : Place) (complaint : Complaint) (value : Value) : Demand :=
  ⟨⟨place, complaint⟩, ∃ values, value = .list values⟩

def optionalList (place : Place) (value : Value) : Demand :=
  ⟨⟨place, .notOptionalList⟩, value = .nil ∨ ∃ values, value = .list values⟩

def object (place : Place) (value : Value) : Demand :=
  ⟨⟨place, .notObject⟩, ∃ members, value = .dict members⟩

def optionalObject (place : Place) (value : Value) : Demand :=
  ⟨⟨place, .notObject⟩, value = .nil ∨ ∃ members, value = .dict members⟩

/-- What is asked of the values of a list, from a given index on. -/
def each (asked : Place → Value → List Demand) (place : Place) (index : Nat) :
    List Value → List Demand
  | [] => []
  | value :: rest => asked (.entry place index) value ++ each asked place (index + 1) rest

def line (place : Place) (members : Members) : List Demand :=
  string (.part place "body") (members.firstOf "body" "content") ::
  optionalString (.part place "speaker") (members.field "speaker") ::
  optionalList (.part place "tags") (members.field "tags") ::
  each (fun place tag => [string place tag]) (.part place "tags") 0 (members.field "tags").listed

def assignments (place : Place) (set : Value) : List Demand :=
  optionalObject (.part place "set") set ::
  set.members.map fun member => scalar (.part place s!"set.{member.1}") member.2

def option (place : Place) : Value → List Demand
  | .scalar (.string _) => []
  | entry =>
      object place entry ::
      string (.part place "label") (entry.members.field "label") ::
      optionalString (.part place "divert") (entry.members.field "divert") ::
      assignments place (entry.members.field "set")

def choice (place : Place) (members : Members) : List Demand :=
  optionalString (.part place "prompt") (members.field "prompt") ::
  list (.part place "options") .notList (members.field "options") ::
  each option (.part place "options") 0 (members.field "options").listed

def setting (place : Place) (members : Members) : List Demand := [
  ⟨⟨.part place "value", .absent⟩, Table.valueOf? "value" members ≠ none⟩,
  string (.part place "var") (members.firstOf "var" "variable"),
  scalar (.part place "value") (members.field "value")]

def test (place : Place) (members : Members) : List Demand := [
  ⟨⟨.part place "operator", .notString⟩, ∃ text, members.OperatorText text⟩,
  string (.part place "var") (members.firstOf "var" "variable"),
  scalar (.part place "value") (members.firstOf "value" "operand")]

/-- What is asked of an entry. Only known types are asked for anything. -/
def item (place : Place) (value : Value) : List Demand :=
  match value with
  | .dict members =>
      match Members.field members "type" with
      | .scalar (.string kind) =>
          if kind = "text" then line place members
          else if kind = "choice" then choice place members
          else if kind = "divert" then
            [string (.part place "target") (Members.field members "target")]
          else if kind = "set" then setting place members
          else if kind = "condition" then
            ⟨⟨.part place "content", .absent⟩, Members.firstOf members "then" "content" ≠ .nil⟩ ::
            (test place members ++
              item (.part place "content") (Members.firstOf members "then" "content"))
          else []
      | _ => []
  | _ => []
termination_by value.depth
decreasing_by
  have := Members.depth_firstOf_le members "then" "content"
  rw [Value.depth]
  omega

def knot (name : String) (value : Value) : List Demand :=
  list (.knot name) .notItemList value :: each item (.knot name) 0 value.listed

def story (raw : Members) : List Demand := raw.flatMap fun member => knot member.1 member.2

end Demand

/-- A reading asks for just what is demanded: where it succeeds all is met, and where it fails it
stops at the first demand that is not. -/
structure Asks {α : Type} (reading : Except Problem α) (demands : List Demand) : Prop where
  met : ∀ result, reading = .ok result → ∀ demand ∈ demands, demand.Met
  unmet : ∀ problem, reading = .error problem → FirstUnmet demands problem

theorem FirstUnmet.unmet {demands : List Demand} {problem : Problem}
    (first : FirstUnmet demands problem) : ¬ ∀ demand ∈ demands, demand.Met := by
  induction first with
  | here unmet => exact fun met => unmet (met _ List.mem_cons_self)
  | later _ _ inductionHypothesis =>
      exact fun met => inductionHypothesis fun demand later =>
        met demand (List.mem_cons_of_mem _ later)

theorem FirstUnmet.unique {demands : List Demand} {problem other : Problem}
    (first : FirstUnmet demands problem) (firstToo : FirstUnmet demands other) :
    problem = other := by
  induction first with
  | here unmet =>
      cases firstToo with
      | here => rfl
      | later met => exact absurd met unmet
  | later met _ inductionHypothesis =>
      cases firstToo with
      | here unmet => exact absurd met unmet
      | later _ rest => exact inductionHypothesis rest

theorem FirstUnmet.append_right {demands later : List Demand} {problem : Problem}
    (first : FirstUnmet demands problem) : FirstUnmet (demands ++ later) problem := by
  induction first with
  | here unmet => exact .here unmet
  | later met _ inductionHypothesis => exact .later met inductionHypothesis

theorem FirstUnmet.append_left {earlier demands : List Demand} {problem : Problem}
    (met : ∀ demand ∈ earlier, demand.Met) (first : FirstUnmet demands problem) :
    FirstUnmet (earlier ++ demands) problem := by
  induction earlier with
  | nil => exact first
  | cons demand rest inductionHypothesis =>
      obtain ⟨here, later⟩ := List.forall_mem_cons.mp met
      exact .later here (inductionHypothesis later)

namespace Asks

variable {α β : Type} {reading : Except Problem α} {demand : Demand}
  {demands later : List Demand}

theorem nothing (result : α) : Asks (.ok result) [] := ⟨by simp, nofun⟩

theorem error {problem : Problem} (first : FirstUnmet demands problem) :
    Asks (.error problem : Except Problem α) demands where
  met := nofun
  unmet := by
    intro other stopped
    cases stopped
    exact first

theorem stop {problem : Problem} {Met : Prop} (unmet : ¬ Met) :
    Asks (.error problem : Except Problem α) (⟨problem, Met⟩ :: later) := error (.here unmet)

theorem go (met : demand.Met) (asks : Asks reading later) : Asks reading (demand :: later) where
  met := fun result read => List.forall_mem_cons.mpr ⟨met, asks.met result read⟩
  unmet := fun problem stopped => .later met (asks.unmet problem stopped)

theorem bind {next : α → Except Problem β} (asks : Asks reading demands)
    (asksNext : ∀ middle, reading = .ok middle → Asks (next middle) later) :
    Asks (reading >>= next) (demands ++ later) := by
  cases reading with
  | error problem => exact .error (asks.unmet problem rfl).append_right
  | ok middle =>
      have met := asks.met middle rfl
      have next := asksNext middle rfl
      constructor
      · intro result read demand asked
        rcases List.mem_append.mp asked with first | second
        · exact met demand first
        · exact next.met result read demand second
      · intro problem stopped
        exact .append_left met (next.unmet problem stopped)

theorem map (asks : Asks reading demands) (change : α → β) :
    Asks (reading.map change) demands := by
  cases reading with
  | error problem => exact .error (asks.unmet problem rfl)
  | ok middle => exact ⟨fun _ _ => asks.met middle rfl, nofun⟩

theorem ok_iff (asks : Asks reading demands) :
    (∃ result, reading = .ok result) ↔ ∀ demand ∈ demands, demand.Met := by
  cases reading with
  | ok result => exact ⟨fun _ => asks.met result rfl, fun _ => ⟨result, rfl⟩⟩
  | error problem =>
      have unmet := (asks.unmet problem rfl).unmet
      exact ⟨nofun, fun met => absurd met unmet⟩

theorem error_iff (asks : Asks reading demands) {problem : Problem} :
    reading = .error problem ↔ FirstUnmet demands problem := by
  refine ⟨asks.unmet problem, fun first => ?_⟩
  cases reading with
  | ok result => exact absurd (asks.met result rfl) first.unmet
  | error other => rw [(asks.unmet other rfl).unique first]

theorem bindOne {next : α → Except Problem β} (asks : Asks reading [demand])
    (asksNext : ∀ middle, reading = .ok middle → Asks (next middle) later) :
    Asks (reading >>= next) (demand :: later) := asks.bind asksNext

/-- What is done with a reading at the end asks for nothing more. -/
theorem bindLast {next : α → Except Problem β} (asks : Asks reading demands)
    (asksNext : ∀ middle, Asks (next middle) []) : Asks (reading >>= next) demands := by
  have whole := asks.bind fun middle _ => asksNext middle
  rwa [List.append_nil] at whole

end Asks

namespace Shape

variable {place : Place} {members : Members} {index : Nat} {value : Value}

theorem string_asks : Asks (string place value) [.string place value] := by
  unfold string
  split
  next text => exact .go ⟨text, rfl⟩ (.nothing text)
  next noText =>
    refine .stop ?_
    rintro ⟨text, same⟩
    exact noText text same

theorem optionalString_asks :
    Asks (optionalString place value) [.optionalString place value] := by
  unfold optionalString
  split
  next => exact .go (.inl rfl) (.nothing none)
  next text => exact .go (.inr ⟨text, rfl⟩) (.nothing (some text))
  next noNil noText =>
    refine .stop ?_
    rintro (isNil | ⟨text, same⟩)
    · exact noNil isNil
    · exact noText text same

theorem scalar_asks : Asks (scalar place value) [.scalar place value] := by
  unfold scalar
  split
  next held => exact .go ⟨held, rfl⟩ (.nothing _)
  next noScalar =>
    refine .stop ?_
    rintro ⟨held, same⟩
    exact noScalar held same

theorem tagsFrom_asks {values : List Value} :
    Asks (tagsFrom place index values)
      (Demand.each (fun place tag => [.string place tag]) place index values) := by
  induction values generalizing index with
  | nil => exact .nothing []
  | cons value rest inductionHypothesis =>
      exact string_asks.bind fun _ _ => inductionHypothesis.bindLast fun _ => .nothing _

theorem tags_asks :
    Asks (tags place value)
      (.optionalList place value ::
        Demand.each (fun place tag => [.string place tag]) place 0 value.listed) := by
  unfold tags
  split
  next => exact .go (.inl rfl) (.nothing [])
  next values => exact .go (.inr ⟨values, rfl⟩) tagsFrom_asks
  next noNil noList =>
    refine .stop ?_
    rintro (isNil | ⟨values, same⟩)
    · exact noNil isNil
    · exact noList values same

theorem line_asks : Asks (line place members) (Demand.line place members) :=
  string_asks.bindOne fun _ _ => optionalString_asks.bindOne fun _ _ =>
    tags_asks.bindLast fun _ => .nothing _

theorem scalars_asks {set : Members} :
    Asks (scalars place set)
      (set.map fun member => Demand.scalar (.part place s!"set.{member.1}") member.2) := by
  induction set with
  | nil => exact .nothing []
  | cons member rest inductionHypothesis =>
      exact scalar_asks.bindOne fun _ _ => inductionHypothesis.bindLast fun _ => .nothing _

theorem assignments_asks :
    Asks (assignments place value) (Demand.assignments place value) := by
  unfold assignments
  split
  next => exact .go (.inl rfl) (.nothing none)
  next set => exact .go (.inr ⟨set, rfl⟩) (scalars_asks.bindLast fun _ => .nothing _)
  next noNil noObject =>
    refine .stop ?_
    rintro (isNil | ⟨set, same⟩)
    · exact noNil isNil
    · exact noObject set same

theorem option_asks : Asks (option place value) (Demand.option place value) := by
  unfold option
  split
  next label => exact .nothing _
  next members =>
    exact .go ⟨members, rfl⟩ (string_asks.bindOne fun _ _ => optionalString_asks.bindOne fun _ _ =>
      assignments_asks.bindLast fun _ => .nothing _)
  next noText noObject =>
    have asked : ∃ later, Demand.option place value = .object place value :: later := by
      unfold Demand.option
      split
      next label => exact absurd rfl (noText label)
      next => exact ⟨_, rfl⟩
    obtain ⟨later, first⟩ := asked
    rw [first]
    refine .stop ?_
    rintro ⟨members, same⟩
    exact noObject members same

theorem optionsFrom_asks {entries : List Value} :
    Asks (optionsFrom place index entries) (Demand.each Demand.option place index entries) := by
  induction entries generalizing index with
  | nil => exact .nothing []
  | cons entry rest inductionHypothesis =>
      exact option_asks.bind fun _ _ => inductionHypothesis.bindLast fun _ => .nothing _

theorem options_asks :
    Asks (options place value)
      (.list place .notList value :: Demand.each Demand.option place 0 value.listed) := by
  unfold options
  split
  next entries => exact .go ⟨entries, rfl⟩ optionsFrom_asks
  next noList =>
    refine .stop ?_
    rintro ⟨entries, same⟩
    exact noList entries same

theorem choice_asks : Asks (choice place members) (Demand.choice place members) :=
  optionalString_asks.bindOne fun _ _ => options_asks.bindLast fun _ => .nothing _

theorem setting_asks : Asks (setting place members) (Demand.setting place members) := by
  unfold setting Demand.setting
  cases here : Table.valueOf? "value" members with
  | none => exact .stop fun met => met rfl
  | some value =>
      have same : members.field "value" = value := by
        rw [Members.field, here, Option.getD_some]
      rw [same]
      exact .go (Option.some_ne_none value) (string_asks.bindOne fun _ _ =>
        scalar_asks.bindLast fun _ => .nothing _)

theorem operator_asks :
    Asks (operator place members)
      [⟨⟨.part place "operator", .notString⟩, ∃ text, members.OperatorText text⟩] := by
  unfold operator
  cases here : Table.valueOf? "operator" members with
  | none => exact .go ⟨"==", .standard here⟩ (.nothing _)
  | some written =>
      dsimp only
      by_cases isText : ∃ text, written = .string text
      · obtain ⟨text, rfl⟩ := isText
        refine .go ⟨text, .written here⟩ ?_
        simp only [string_eq_ok.mpr rfl, bind, Except.bind]
        cases Comparison.ofText? text <;> exact .nothing _
      · have stopped : string (.part place "operator") written =
            .error ⟨.part place "operator", .notString⟩ := by
          unfold string
          split
          next text => exact absurd ⟨text, rfl⟩ isText
          next => rfl
        rw [stopped]
        refine .stop ?_
        rintro ⟨text, absent | there⟩
        · rw [here] at absent
          cases absent
        · rw [Members.Has, here] at there
          cases there
          exact isText ⟨text, rfl⟩

theorem test_asks : Asks (test place members) (Demand.test place members) :=
  operator_asks.bindOne fun _ _ => string_asks.bindOne fun _ _ =>
    scalar_asks.bindLast fun _ => .nothing _

theorem item_asks (place : Place) (value : Value) :
    Asks (item place value) (Demand.item place value) := by
  fun_induction item place value with
  | case1 place body =>
      rw [Demand.item]
      · exact .nothing _
      · intro members same
        cases same
  | case2 place members typed =>
      rw [Demand.item, typed]
      exact line_asks.map _
  | case3 place members typed =>
      rw [Demand.item, typed]
      exact choice_asks.map _
  | case4 place members typed =>
      rw [Demand.item, typed]
      exact string_asks.map _
  | case5 place members typed =>
      rw [Demand.item, typed]
      exact setting_asks
  | case6 place members nothing typed =>
      rw [Demand.item, typed]
      exact .stop (fun present => present (Value.isNil_iff.mp nothing))
  | case7 place members present problem tested typed =>
      rw [Demand.item, typed]
      have unmet := test_asks.unmet problem tested
      exact .go (mt Value.isNil_iff.mpr present) (.error unmet.append_right)
  | case8 place members present test tested typed _ _ _ _ inductionHypothesis =>
      rw [Demand.item, typed]
      have whole := test_asks.bind fun middle (_ : Shape.test place members = .ok middle) =>
        inductionHypothesis.map (Item.condition middle)
      rw [tested] at whole
      exact .go (mt Value.isNil_iff.mpr present) whole
  | case9 place members kind typed noText noChoice noDivert noSet noCondition =>
      rw [Demand.item, typed]
      simp only [noText, noChoice, noDivert, noSet, noCondition, if_false]
      exact .nothing _
  | case10 place members untyped =>
      rw [Demand.item]
      split
      next kind typed => exact absurd typed (untyped kind)
      next => exact .nothing _
  | case11 place value noText noObject =>
      rw [Demand.item]
      · exact .nothing _
      · exact noObject

theorem itemsFrom_asks {entries : List Value} :
    Asks (itemsFrom place index entries) (Demand.each Demand.item place index entries) := by
  induction entries generalizing index with
  | nil => exact .nothing []
  | cons entry rest inductionHypothesis =>
      exact (item_asks _ entry).bind fun _ _ => inductionHypothesis.bindLast fun _ => .nothing _

theorem knot_asks (name : String) (value : Value) :
    Asks (knot name value) (Demand.knot name value) := by
  unfold knot
  split
  next entries => exact .go ⟨entries, rfl⟩ itemsFrom_asks
  next noList =>
    refine .stop ?_
    rintro ⟨entries, same⟩
    exact noList entries same

theorem knots_asks (raw : Members) : Asks (knots raw) (Demand.story raw) := by
  induction raw with
  | nil => exact .nothing []
  | cons member rest inductionHypothesis =>
      exact (knot_asks _ member.2).bind fun _ _ => inductionHypothesis.bindLast fun _ => .nothing _

end Shape

/-- An entry is well-formed exactly if all that is asked of it is so, wherever it stands. -/
theorem wellFormed_iff_met (place : Place) (value : Value) :
    value.WellFormed ↔ ∀ demand ∈ Demand.item place value, demand.Met := by
  rw [← (Shape.item_asks place value).ok_iff]
  simp only [Value.WellFormed, Shape.item_eq_ok]

theorem ofMembers_asks (raw : Members) : Asks (Story.ofMembers raw) (Demand.story raw) :=
  (Shape.knots_asks raw).map _

theorem met_each_iff (place : Place) (index : Nat) (entries : List Value) :
    (∀ demand ∈ Demand.each Demand.item place index entries, demand.Met) ↔
      ∀ entry ∈ entries, entry.WellFormed := by
  induction entries generalizing index with
  | nil => simp [Demand.each]
  | cons entry rest inductionHypothesis =>
      rw [Demand.each, List.forall_mem_append, List.forall_mem_cons, inductionHypothesis,
        ← wellFormed_iff_met]

theorem met_knot_iff (name : String) (value : Value) :
    (∀ demand ∈ Demand.knot name value, demand.Met) ↔
      ∃ entries, value = .list entries ∧ ∀ entry ∈ entries, entry.WellFormed := by
  rw [Demand.knot, List.forall_mem_cons, met_each_iff]
  constructor
  · rintro ⟨⟨entries, rfl⟩, wellFormed⟩
    exact ⟨entries, rfl, wellFormed⟩
  · rintro ⟨entries, rfl, wellFormed⟩
    exact ⟨⟨entries, rfl⟩, wellFormed⟩

theorem exists_story_iff (raw : Table Value) :
    (∃ story, Story.ofMembers raw.entries = .ok story) ↔
      ∀ member ∈ raw.entries, ∃ entries, member.2 = .list entries ∧
        ∀ entry ∈ entries, entry.WellFormed := by
  rw [(ofMembers_asks raw.entries).ok_iff, Demand.story, List.forall_mem_flatMap]
  simp only [met_knot_iff]

/-- A story is read from an object exactly if every member is a list of well-formed entries, and
then its knots are the members in their order and its items are what the entries write, each in its
place. An object from which no story is read is refused with the problem of the first thing that
was asked of it and is not so; and an entry is well-formed exactly if all that is asked of it is. -/
theorem stories_read_by_grammar (raw : Table Value) :
    (∀ story, Story.ofMembers raw.entries = .ok story ↔
      List.Forall₂ WritesKnot raw.entries story.entries) ∧
    ((∃ story, Story.ofMembers raw.entries = .ok story) ↔
      ∀ member ∈ raw.entries, ∃ entries, member.2 = .list entries ∧
        ∀ entry ∈ entries, entry.WellFormed) ∧
    (∀ problem, Story.ofMembers raw.entries = .error problem ↔
      FirstUnmet (Demand.story raw.entries) problem) ∧
    ∀ place (entry : Value), entry.WellFormed ↔
      ∀ demand ∈ Demand.item place entry, demand.Met :=
  ⟨fun _ => Story.ofMembers_eq_ok, exists_story_iff raw, fun _ => (ofMembers_asks _).error_iff,
    wellFormed_iff_met⟩

/-- Of two things that are wrong with a set item the first that is asked for is told. -/
example : Story.ofMembers [("start", .list [.string "Hello.",
    .dict [("type", .string "set"), ("var", .nil), ("variable", .string "mood")]])] =
      .error ⟨.part (.entry (.knot "start") 1) "value", .absent⟩ := by cbv

end StoryGraph
