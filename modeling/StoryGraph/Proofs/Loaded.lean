import Mathlib
import StoryGraph.Proofs.Faults
import StoryGraph.Proofs.Loading
import StoryGraph.Proofs.Retry
import StoryGraph.Proofs.Sessions

/-!
Sessions over stories that were read. Every item of such a story is written by a value that stands
in the document where the item stands in the story, under as many conditions. A walk dispatches
nothing else, so what it meets has the shape that reading asks for: only scalars are set, every
condition leads to an item, and an operator that is not known is the text that was written.

What can then go wrong is left to the knots, the budget, the answers and, under strict types, the
variables.
-/

set_option autoImplicit false

namespace StoryGraph

/-- A value wraps another in writing: one or more conditions lead from it to the other. -/
inductive Value.Wraps : Value → Value → Prop where
  | body {members : Members} {content} (typed : members.Has "type" (.string "condition"))
      (leads : members.First "then" "content" content) : Wraps (.dict members) content
  | deeper {members : Members} {content inner} (typed : members.Has "type" (.string "condition"))
      (leads : members.First "then" "content" content) (wraps : Wraps content inner) :
      Wraps (.dict members) inner

/-- A value stands at a place of a document: it is the entry of the knot there or, inline, that
entry wraps it. -/
def Members.Places (raw : Members) (place : Cursor) (inline : Bool) (value : Value) : Prop :=
  ∃ entries outer, raw.Has place.knot (.list entries) ∧ 1 ≤ place.position ∧
    entries[place.position - 1]? = some outer ∧ if inline then outer.Wraps value else outer = value

/-- What can still go wrong in a session over a story that was read. -/
inductive Stage.StillFails (stage : Stage) : Fault → Prop where
  | unknownDivert {target} (unknown : stage.story.contains target = false) :
      StillFails stage (.unknownDivert target)
  | navigationLoop (place) : StillFails stage (.navigationLoop stage.settings.maxSteps place)
  | noPendingChoice : StillFails stage .noPendingChoice
  | invalidChoice (text knot options) : StillFails stage (.invalidChoice text knot options)
  | typeMismatch {name mismatch} (strict : stage.settings.strictTypes = true) :
      StillFails stage (.typeMismatch name mismatch)

/-- A call dispatches an item at a moment, so many dispatches after its first one. -/
inductive Stage.Dispatches (stage : Stage) (state : State) (cue : Cue) (count : Nat)
    (moment : Moment) (item : Item) : Prop where
  | dispatch {outset} (walks : stage.Outset state cue outset)
      (early : count < stage.settings.maxSteps) (goes : stage.Goes count ⟨outset, none⟩ moment)
      (next : stage.next? moment.state moment.inline = some item) :
      Dispatches stage state cue count moment item

theorem Item.eq_set_of_action {item : Item} {name : String} {value : Value}
    (action : item.action = .assign name value) : item = .set name value := by
  unfold Item.action at action
  split at action <;> cases action
  rfl

/-- An operator that is read is the one that its text names. -/
@[simp] theorem Operator.resolve_ofText (text : String) :
    (Operator.ofText text).resolve = (Operator.written (.string text)).resolve := by
  unfold ofText
  cases named : Comparison.ofText? text <;> simp [resolve, Value.string, named]

namespace Value

variable {value : Value} {item : Item}

/-- No item that is read stands for none. -/
theorem Writes.present (writes : value.Writes item) : item.present? = some item := by
  cases writes <;> rfl

theorem Writes.scalar_of_set {held : Value} {name : String}
    (writes : value.Writes (.set name held)) :
    ∃ scalar, held = .scalar scalar := by
  cases writes with
  | set => exact ⟨_, rfl⟩

theorem WritesOption.scalars {option : ChoiceOption} (writes : value.WritesOption option) :
    ∀ assignment ∈ option.assignments, ∃ scalar, assignment.2 = .scalar scalar := by
  cases writes with
  | bare => nofun
  | full _ _ assigns =>
      cases assigns with
      | lacking => nofun
      | listed _ scalars =>
          intro assignment assigned
          exact scalars assignment (Table.mem_of_mem_ofList assigned)

theorem Writes.scalars_of_choice {choice : Choice} (writes : value.Writes (.choice choice)) :
    ∀ option ∈ choice.options, ∀ assignment ∈ option.assignments,
      ∃ scalar, assignment.2 = .scalar scalar := by
  cases writes with
  | choice _ _ listed offered =>
      dsimp only
      clear listed
      induction offered with
      | nil => nofun
      | cons first _ inductionHypothesis =>
          exact List.forall_mem_cons.mpr ⟨first.scalars, inductionHypothesis⟩

/-- An operator is tested as the text that is written. -/
theorem Writes.operator_of_condition {members : Members} {test : Test} {body : Item}
    (writes : (dict members).Writes (.condition test body)) :
    ∃ text, members.OperatorText text ∧ test.operator = .ofText text := by
  cases writes with
  | condition _ _ _ tested =>
      cases tested with
      | test _ operated => exact ⟨_, operated, rfl⟩

/-- What an item wraps is written by what its writing wraps. -/
theorem Writes.inward {inner : Item} (writes : value.Writes item) (wraps : item.Wraps inner) :
    ∃ content, value.Wraps content ∧ content.Writes inner := by
  induction wraps generalizing value with
  | body =>
      cases writes with
      | condition typed leads _ _ wrapped => exact ⟨_, .body typed leads, wrapped⟩
  | deeper _ inductionHypothesis =>
      cases writes with
      | condition typed leads _ _ wrapped =>
          obtain ⟨content, deeper, writes⟩ := inductionHypothesis wrapped
          exact ⟨content, .deeper typed leads deeper, writes⟩

end Value

theorem entry_of_item {entries : List Value} {items : List Item}
    (writes : List.Forall₂ Value.Writes entries items) {index : Nat} {item : Item}
    (here : items[index]? = some item) :
    ∃ entry, entries[index]? = some entry ∧ entry.Writes item := by
  induction writes generalizing index with
  | nil => cases here
  | @cons entry _ _ _ first _ inductionHypothesis =>
      cases index with
      | zero =>
          cases here
          exact ⟨entry, rfl, first⟩
      | succ index => exact inductionHypothesis here

theorem entries_of_items {written : Members} {knots : List (String × List Item)}
    (writes : List.Forall₂ WritesKnot written knots) {name : String} {items : List Item}
    (found : Table.valueOf? name knots = some items) :
    ∃ entries, written.Has name (.list entries) ∧ List.Forall₂ Value.Writes entries items := by
  induction writes with
  | nil => cases found
  | @cons member knot _ _ first _ inductionHypothesis =>
      obtain ⟨sameName, entries, listed, writes⟩ := first
      unfold Members.Has
      rw [Table.valueOf?] at found ⊢
      rw [sameName] at found
      split at found
      next here =>
        cases found
        exact ⟨entries, by rw [if_pos here, listed], writes⟩
      next elsewhere =>
        rw [if_neg elsewhere]
        exact inductionHypothesis found

/-- What stands at a place of a story is written by what stands there in the document. -/
theorem written_of_holds {raw : Table Value} {story : Story}
    (writes : List.Forall₂ WritesKnot raw.entries story.entries) {place : Cursor} {inline : Bool}
    {item : Item} (held : story.Holds place.knot place.position inline item) :
    ∃ value, Members.Places raw.entries place inline value ∧ value.Writes item := by
  obtain ⟨items, outer, found, positive, _, here, holds⟩ := held
  obtain ⟨entries, listed, writesItems⟩ := entries_of_items writes found
  obtain ⟨entry, written, writesOuter⟩ := entry_of_item writesItems here
  cases inline with
  | false =>
      cases holds
      exact ⟨entry, ⟨entries, entry, listed, positive, written, rfl⟩, writesOuter⟩
  | true =>
      obtain ⟨content, wraps, writesItem⟩ := writesOuter.inward holds
      exact ⟨content, ⟨entries, entry, listed, positive, written, wraps⟩, writesItem⟩

namespace Stage

variable {stage : Stage} {raw : Table Value} {state after : State} {moment : Moment}
  {fault : Fault} {name typeName : String}

/-- What a walk dispatches is written where it stands. -/
theorem written_of_next (writes : List.Forall₂ WritesKnot raw.entries stage.story.entries)
    (placed : moment.InPlace stage.story) {item : Item}
    (next : stage.next? moment.state moment.inline = some item) :
    ∃ value, Members.Places raw.entries moment.place moment.inline.isSome value ∧
      value.Writes item := by
  obtain ⟨reached, inline⟩ := moment
  have held := placed.holds_past next
  apply written_of_holds writes
  cases inline <;> exact held

theorem Halts.valid (writes : List.Forall₂ WritesKnot raw.entries stage.story.entries)
    (placed : moment.InPlace stage.story) {outcome : Outcome Event}
    (halts : stage.Halts moment outcome) : outcome.2 ≠ .error (.invalidValue name typeName) := by
  intro failed
  cases halts.rules with
  | theEnd => cases failed
  | say => cases failed
  | ask => cases failed
  | astray => cases failed
  | unassignable next action nonScalar =>
      cases Item.eq_set_of_action action
      obtain ⟨_, _, writesSet⟩ := written_of_next writes placed next
      obtain ⟨_, rfl⟩ := writesSet.scalar_of_set
      cases nonScalar
  | undecided _ _ evaluated =>
      rcases evaluate_error evaluated with ⟨_, rfl⟩ | ⟨_, _, rfl⟩ <;> cases failed
  | unskipped _ _ reported =>
      cases report_error reported
      cases failed

theorem walkOn_valid (writes : List.Forall₂ WritesKnot raw.entries stage.story.entries)
    (placed : state.InPlace stage.story) (idle : state.pending = none) :
    (stage.walkOn state).2 ≠ .error (.invalidValue name typeName) := by
  have rules := stage.walkOn_rules state
  generalize stage.walkOn state = outcome at rules
  cases rules with
  | ended _ goes halts => exact halts.valid writes (goes.inPlace (placed.outset idle))
  | spent => nofun

theorem assignAll_valid {assignments : List (String × Value)}
    (scalars : ∀ assignment ∈ assignments, ∃ scalar, assignment.2 = .scalar scalar) :
    (stage.assignAll state assignments).2 = .ok () := by
  induction assignments generalizing state with
  | nil => rfl
  | cons assignment rest inductionHypothesis =>
      obtain ⟨⟨scalar, isScalar⟩, scalars⟩ := List.forall_mem_cons.mp scalars
      simpa [assignAll, isScalar, Value.scalar?] using inductionHypothesis scalars

theorem fulfil_valid {option : ChoiceOption} {answer : Except Fault Unit}
    (scalars : ∀ assignment ∈ option.assignments, ∃ scalar, assignment.2 = .scalar scalar)
    (fulfilled : stage.fulfil state option = (after, answer)) :
    answer ≠ .error (.invalidValue name typeName) := by
  rintro rfl
  have assigned : (stage.assignAll state option.assignments).2 = .ok () := assignAll_valid scalars
  rcases Outcome.error_of_andThen fulfilled with failed | ⟨_, _, _, followed⟩
  · rw [failed] at assigned
    cases assigned
  · cases towards : option.target with
    | none =>
        rw [towards] at followed
        cases followed
    | some target =>
        rw [towards, follow] at followed
        cases known : stage.story.contains target with
        | true => simp [known] at followed
        | false => simp [known] at followed

/-- An option of a choice that waits sets only scalars. -/
theorem scalars_of_picked (writes : List.Forall₂ WritesKnot raw.entries stage.story.entries)
    (placed : state.InPlace stage.story) {pending : Pending}
    (waiting : state.pending = some pending) {index : Value} {number : Nat} {option : ChoiceOption}
    (picked : picked? pending.choice index = some (number, option)) :
    ∀ assignment ∈ option.assignments, ∃ scalar, assignment.2 = .scalar scalar := by
  obtain ⟨_, held, _⟩ := placed.pending pending waiting
  have heldThere : stage.story.Holds (Cursor.mk pending.knot pending.position).knot
      (Cursor.mk pending.knot pending.position).position pending.inline
      (.choice pending.choice) := held
  obtain ⟨_, _, writesChoice⟩ := written_of_holds writes heldThere
  obtain ⟨_, _, present⟩ := picked?_eq_some.mp picked
  exact writesChoice.scalars_of_choice option (List.mem_of_getElem? present)

theorem commit_valid (writes : List.Forall₂ WritesKnot raw.entries stage.story.entries)
    (placed : state.InPlace stage.story) (index : Value) :
    (stage.commit state index).2 ≠ .error (.invalidValue name typeName) := by
  have rules := stage.commit_rules state index
  generalize stage.commit state index = outcome at rules
  cases rules with
  | idle => nofun
  | @refused pending =>
      dsimp only
      unfold refusal
      split <;> nofun
  | failed waiting picked unfulfilled =>
      intro failed
      cases failed
      exact fulfil_valid (scalars_of_picked writes placed waiting picked) unfulfilled rfl
  | taken waiting picked fulfilled =>
      obtain ⟨placedAfter, idle⟩ := answered_inPlace placed waiting picked fulfilled
      exact walkOn_valid writes placedAfter idle

theorem play_valid (writes : List.Forall₂ WritesKnot raw.entries stage.story.entries)
    (placed : state.InPlace stage.story) (cue : Cue) :
    (stage.play state cue).2 ≠ .error (.invalidValue name typeName) := by
  cases cue with
  | advance =>
      cases waiting : state.pending with
      | some pending => simp [play, waiting]
      | none => simpa [play, waiting] using walkOn_valid writes placed waiting
  | commit index => exact commit_valid writes placed index

/-- Over a story that was read, and with a listener that refuses nothing, little stops a walk. -/
theorem stillFails_of_stops (unopposed : stage.Unopposed) (stops : stage.Stops fault)
    (valid : ∀ name typeName, fault ≠ .invalidValue name typeName) : stage.StillFails fault := by
  cases stops with
  | unknownDivert unknown => exact .unknownDivert unknown
  | invalidValue => exact absurd rfl (valid _ _)
  | navigationLoop place => exact .navigationLoop place
  | typeMismatch strict => exact .typeMismatch strict
  | @refused listener heard notice listens refuses =>
      rw [unopposed listener listens heard notice] at refuses
      cases refuses

theorem stillFails_of_play (writes : List.Forall₂ WritesKnot raw.entries stage.story.entries)
    (unopposed : stage.Unopposed) (placed : state.InPlace stage.story) {cue : Cue}
    (printable : ∀ index, cue = .commit index → index.text?.isSome = true)
    (failed : (stage.play state cue).2 = .error fault) : stage.StillFails fault := by
  have valid : ∀ name typeName, fault ≠ .invalidValue name typeName := by
    rintro name typeName rfl
    exact play_valid writes placed cue failed
  cases cue with
  | advance => exact stillFails_of_stops unopposed (stops_of_advance failed) valid
  | commit index =>
      rcases stops_or_turnsAway_of_commit failed with stops | turns
      · exact stillFails_of_stops unopposed stops valid
      · cases turns with
        | tooEarly => exact .noPendingChoice
        | invalid => exact .invalidChoice ..
        | unprintable noText =>
            have hasText := printable index rfl
            rw [noText] at hasText
            cases hasText

theorem Dispatches.inPlace {cue : Cue} {count : Nat} {item : Item}
    (dispatches : stage.Dispatches state cue count moment item)
    (placed : state.InPlace stage.story) : moment.InPlace stage.story := by
  obtain ⟨walks, _, goes, _⟩ := dispatches
  exact goes.inPlace ((walks.inPlace placed).outset walks.idle)

/-- A condition that holds leads to its body, if the budget allows for one more dispatch. -/
theorem Dispatches.body {cue : Cue} {count : Nat} {test : Test} {body : Item}
    (dispatches : stage.Dispatches state cue count moment (.condition test body))
    (present : body.present? = some body)
    (evaluated : stage.evaluate (past moment.state moment.inline) test = (after, .ok true)) :
    stage.Dispatches state cue (count + 1) ⟨after, some body⟩ body ∨
      count + 1 = stage.settings.maxSteps ∧
        stage.play state cue =
          (after, .error (.navigationLoop stage.settings.maxSteps after.cursor)) := by
  obtain ⟨walks, early, goes, next⟩ := dispatches
  have moves : stage.Moves moment ⟨after, some body⟩ := by
    unfold Moves
    rw [step_of_decide next rfl, evaluated, Outcome.andThen_ok, if_pos rfl, present]
  have goesOn : stage.Goes (count + 1) _ ⟨after, some body⟩ := goes.trans (.next moves .start)
  rcases Nat.lt_or_eq_of_le early with more | spent
  · exact .inl ⟨walks, more, goesOn, rfl⟩
  · have spent : count + 1 = stage.settings.maxSteps := spent
    rw [spent] at goesOn
    refine .inr ⟨spent, ?_⟩
    rw [walks.play, walkOn]
    exact walk_of_goes goesOn

/-- A test is noted down as one by no operator exactly if the text that is written names none. -/
theorem unknownOperator_iff {inline : Option Item} {test : Test} {body : Item} {text : String}
    (next : stage.next? state inline = some (.condition test body))
    (operator : test.operator = .ofText text) {unknown : UnknownOperator} :
    .unknownOperator name unknown ∈ (stage.noted? state inline).toList ↔
      name = test.name ∧ (Operator.written (.string text)).resolve = .error unknown := by
  rw [noted?_of_decide next rfl, Test.notice?, operator, Operator.resolve_ofText]
  cases (Operator.written (.string text)).resolve with
  | error other => simp [eq_comm]
  | ok comparison =>
      dsimp only
      split
      · simp
      · split <;> simp

/-- In every session over a story that was read from a file, with a listener that refuses nothing:
a call that plays on fails only for a missing knot, a spent budget, an answer that is out of turn
or out of range or, under strict types, a mismatch; scalars can be set at any time; and every
condition that is dispatched is written in the document where it stands. It is noted down as a test
by no operator exactly if its text there names none, in the words in which that text is refused;
and if it holds, then what it leads to is dispatched next or the budget is spent. -/
theorem loaded_stories_play (files : Files) (path : Path) (stage : Stage)
    (loaded : ((Library.ofPath path).story files).2 = .ok stage.story)
    (unopposed : stage.Unopposed) (knot : String) (state : State)
    (reachable : stage.Reachable knot state) :
    ∃ raw : Table Value, files.Holds path (.ofTable raw) ∧
      (∀ cue fault, (∀ index, cue = .commit index → index.text?.isSome = true) →
        (stage.play state cue).2 = .error fault → stage.StillFails fault) ∧
      (∀ name scalar, (stage.assign state name (.scalar scalar)).2 = .ok ()) ∧
      ∀ cue count moment test body,
        stage.Dispatches state cue count moment (.condition test body) →
          (∃ (members : Members) (text : String) (told : List Notice),
            Members.Places raw.entries moment.place moment.inline.isSome (.dict members) ∧
            (Value.dict members).Writes (.condition test body) ∧ members.OperatorText text ∧
            stage.Told moment.state (stage.step moment.state moment.inline).1 told ∧
            ∀ name unknown, .unknownOperator name unknown ∈ told ↔
              name = test.name ∧ (Operator.written (.string text)).resolve = .error unknown) ∧
          ∀ after, stage.evaluate (past moment.state moment.inline) test = (after, .ok true) →
            stage.Dispatches state cue (count + 1) ⟨after, some body⟩ body ∨
              count + 1 = stage.settings.maxSteps ∧
                stage.play state cue =
                  (after, .error (.navigationLoop stage.settings.maxSteps after.cursor)) := by
  rw [Library.story_ofPath] at loaded
  obtain ⟨raw, holds, writes⟩ := Story.load_eq_ok.mp loaded
  have placed := reachable.inPlace
  refine ⟨raw, holds, ?_, ?_, ?_⟩
  · intro cue fault printable failed
    exact stillFails_of_play writes unopposed placed printable failed
  · intro name scalar
    simp [Value.scalar?]
  · intro cue count moment test body dispatches
    have next : stage.next? moment.state moment.inline = some (.condition test body) := by
      obtain ⟨_, _, _, next⟩ := dispatches
      exact next
    obtain ⟨value, stands, writesCondition⟩ :=
      written_of_next writes (dispatches.inPlace placed) next
    constructor
    · have object : ∃ members, value = .dict members := by
        cases writesCondition
        exact ⟨_, rfl⟩
      obtain ⟨members, rfl⟩ := object
      obtain ⟨text, operated, operator⟩ := writesCondition.operator_of_condition
      refine ⟨members, text, _, stands, writesCondition, operated, stage.step_told .., ?_⟩
      intro name unknown
      exact unknownOperator_iff next operator
    · intro after evaluated
      have present : body.present? = some body := by
        cases writesCondition with
        | condition _ _ _ _ wrapped => exact wrapped.present
      exact dispatches.body present evaluated

set_option maxRecDepth 8000 in
/-- A condition with an operator that is none spends the only dispatch. -/
theorem loaded_stories_play_unknown_operator :
    let document := "\x7b\"start\":[\x7b\"type\":\"condition\",\"var\":\"mood\"," ++
      "\"operator\":\"~\",\"then\":\"Odd.\"\x7d]\x7d"
    let files : Files := ⟨[(⟨.above 0, ["story.json"]⟩, .file document.toUTF8.toList)]⟩
    let path : Path := ⟨"", ["story.json"]⟩
    let odd : Item := .condition ⟨"mood", .written (.string "~"), .nil⟩ (.bare "Odd.")
    let stage : Stage := ⟨.ofList [("start", [odd])], ⟨1, false, by decide⟩, none⟩
    ((Library.ofPath path).story files).2 = .ok stage.story ∧
      stage.Reachable "start" (.opening "start") ∧
      stage.StillFails (.navigationLoop 1 ⟨"start", 2⟩) ∧
      ∃ raw : Table Value, files.Holds path (.ofTable raw) ∧ ∃ (members : Members) (text : String),
        Members.Places raw.entries ⟨"start", 1⟩ false (.dict members) ∧
          members.OperatorText text ∧
          (Operator.written (.string text)).resolve = .error ⟨.string "~"⟩ := by
  intro document files path odd stage
  have decoded : Text.readText document.toUTF8.toList = .ok document.toList := by decide +kernel
  let written : Members := [("start", .list [
    .dict [("type", .string "condition"), ("var", .string "mood"), ("operator", .string "~"),
      ("then", .string "Odd.")]])]
  have read : Json.read document.toList = .ok (.dict written) := by cbv
  have shaped : Story.ofMembers written = .ok stage.story := by cbv
  have loaded : ((Library.ofPath path).story files).2 = .ok stage.story := by
    have here : files.read path = .ok document.toUTF8.toList := by decide +kernel
    simp only [Library.story, Library.ofPath, Story.load, here, Story.ofOctets, decoded, read,
      shaped]
  have unopposed : stage.Unopposed := by
    intro listener listens
    cases listens
  have reachable : stage.Reachable "start" (.opening "start") := .start rfl
  have noted : stage.noted? (.opening "start") none =
      some (.unknownOperator "mood" ⟨.string "~"⟩) := by cbv
  have failed : (stage.play (.opening "start") .advance).2 =
      .error (.navigationLoop 1 ⟨"start", 2⟩) := by cbv
  obtain ⟨raw, holds, faults, _, conditions⟩ :=
    loaded_stories_play files path stage loaded unopposed "start" _ reachable
  have dispatches : stage.Dispatches (.opening "start") .advance 0 ⟨.opening "start", none⟩ odd :=
    .dispatch (.onward rfl) (by decide) .start rfl
  obtain ⟨⟨members, text, told, stands, _, operated, toldHere, notedHere⟩, _⟩ :=
    conditions .advance 0 _ _ _ dispatches
  have here : .unknownOperator "mood" ⟨.string "~"⟩ ∈ told := by
    rw [toldHere.unique (stage.step_told ..), noted]
    exact List.mem_singleton_self _
  have stillFails : stage.StillFails (.navigationLoop 1 ⟨"start", 2⟩) := by
    apply faults .advance _ _ failed
    intro index same
    cases same
  exact ⟨loaded, reachable, stillFails, raw, holds, members, text, stands, operated,
    ((notedHere _ _).mp here).2⟩

end Stage

end StoryGraph
