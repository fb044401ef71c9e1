import StoryGraph.Proofs.SideBySide

/-!
Stories may be written briefly: a string for a line of narration, a label for an option that leads
nowhere and sets nothing. Spell all of it out, at whatever depth of conditions it stands: a session
goes the same way over both stories, call by call and dispatch by dispatch. It answers and fails the
same, and nothing in its state differs but the spelling of the choice that waits.

So the sessions go in step. What is shown here is what spelling out does to options, items and what
a state holds.
-/

set_option autoImplicit false

namespace StoryGraph

/-- A label alone as an option without a target and without variables to set. -/
def ChoiceOption.spelledOut : ChoiceOption → ChoiceOption
  | .bare label => .full label none none
  | option => option

def Choice.spelledOut (choice : Choice) : Choice :=
  { choice with options := choice.options.map ChoiceOption.spelledOut }

/-- A string alone as a line without a speaker and without tags, also as the body of conditions. -/
def Item.spelledOut : Item → Item
  | .plain (.scalar (.string body)) => .line (.ofBody body)
  | .choice offered => .choice offered.spelledOut
  | .condition test body => .condition test body.spelledOut
  | item => item

def Story.spelledOut (story : Story) : Story :=
  story.map fun _ items => items.map Item.spelledOut

def Stage.spelledOut (stage : Stage) : Stage := { stage with story := stage.story.spelledOut }

def Pending.spelledOut (pending : Pending) : Pending :=
  { pending with choice := pending.choice.spelledOut }

/-- The same state, but for the spelling of the choice that waits. -/
def State.spelledOut (state : State) : State :=
  { state with pending := state.pending.map Pending.spelledOut }

/-- The same answer or fault, with a state that is spelled out. -/
def Outcome.spelledOut {α : Type} (outcome : Outcome α) : Outcome α :=
  (outcome.1.spelledOut, outcome.2)

def Action.spelledOut : Action → Action
  | .ask choice => .ask choice.spelledOut
  | .decide test body => .decide test (body.map Item.spelledOut)
  | action => action

section content

@[simp] theorem ChoiceOption.label_spelledOut (option : ChoiceOption) :
    option.spelledOut.label = option.label := by
  cases option <;> rfl

@[simp] theorem ChoiceOption.target_spelledOut (option : ChoiceOption) :
    option.spelledOut.target = option.target := by
  cases option <;> rfl

@[simp] theorem ChoiceOption.assignments_spelledOut (option : ChoiceOption) :
    option.spelledOut.assignments = option.assignments := by
  cases option <;> rfl

@[simp] theorem Choice.labels_spelledOut (choice : Choice) :
    choice.spelledOut.labels = choice.labels := by
  simp [labels, spelledOut]

/-- A plain nil is no item before and after, and nothing else becomes one. -/
@[simp] theorem Item.present?_spelledOut (item : Item) :
    item.spelledOut.present? = item.present?.map Item.spelledOut := by
  cases item with
  | plain value =>
      rcases value with (_ | _ | _ | _) | _ | _ <;> rfl
  | line | choice | divert | set | condition | unrecognized => rfl

/-- An item that is spelled out asks for the same. -/
@[simp] theorem Item.action_spelledOut (item : Item) :
    item.spelledOut.action = item.action.spelledOut := by
  cases item with
  | plain value =>
      rcases value with (_ | _ | _ | _) | _ | _ <;> rfl
  | condition test body =>
      simp only [spelledOut, action, Action.spelledOut, present?_spelledOut]
  | line | choice | divert | set | unrecognized => rfl

@[simp] theorem Story.contains_spelledOut (story : Story) (name : String) :
    story.spelledOut.contains name = story.contains name := by
  simp only [Table.contains, spelledOut, Table.get?_map, Option.isSome_map]

@[simp] theorem Story.itemAt?_spelledOut (story : Story) (knot : String) (position : Nat) :
    story.spelledOut.itemAt? knot position =
      (story.itemAt? knot position).map Item.spelledOut := by
  simp only [itemAt?, spelledOut, Table.get?_map]
  cases story.get? knot with
  | none => rfl
  | some items => simp

end content

/-- What a session has in common with the one over the story that is spelled out. -/
def Likeness.spelledOut : Likeness where
  Related state twin := twin = state.spelledOut
  Tells notice twinNotice := twinNotice = notice
  respell := Item.spelledOut

theorem Choice.like_spelledOut (choice : Choice) : choice.Like choice.spelledOut where
  prompt := rfl
  labels := choice.labels_spelledOut
  options := by
    intro place option present
    refine ⟨option.spelledOut, ?_, option.target_spelledOut, option.assignments_spelledOut⟩
    rw [spelledOut, List.getElem?_map, present, Option.map_some]

theorem Item.action_like_spelledOut (item : Item) :
    item.action.Like Item.spelledOut item.spelledOut.action := by
  rw [action_spelledOut]
  cases item.action with
  | ask choice => exact ⟨_, rfl, choice.like_spelledOut⟩
  | say | goTo | assign | decide | skip => rfl

namespace Stage

variable (stage : Stage) (state : State)

@[simp] theorem report_spelledOut (notice : Notice) :
    stage.spelledOut.report state.spelledOut notice = (stage.report state notice).spelledOut := by
  unfold report
  have sameListener : stage.spelledOut.listener = stage.listener := rfl
  rw [sameListener]
  cases stage.listener with
  | none => rfl
  | some listener =>
      -- The listener judges by what it heard before, which is the same.
      change (if listener.refuses state.heard notice then _ else _) =
        Outcome.spelledOut (if listener.refuses state.heard notice then _ else _)
      cases listener.refuses state.heard notice <;> rfl

@[simp] theorem past_spelledOut (inline : Option Item) :
    past state.spelledOut (inline.map Item.spelledOut) = (past state inline).spelledOut := by
  cases inline <;> rfl

@[simp] theorem present_spelledOut (inline : Option Item) (choice : Choice) :
    present state.spelledOut (inline.map Item.spelledOut) choice.spelledOut =
      (present state inline choice).spelledOut := by
  cases inline <;> rfl

@[simp] theorem settle_spelledOut (pending : Pending) (number : Nat) (option : ChoiceOption) :
    settle state.spelledOut pending.spelledOut number option.spelledOut =
      (settle state pending number option).spelledOut := by
  have sameInline : pending.spelledOut.inline = pending.inline := rfl
  unfold settle
  rw [sameInline, ChoiceOption.label_spelledOut]
  cases pending.inline <;> rfl

/-- A number picks the same option of a choice that is spelled out. -/
theorem picked_spelledOut {choice : Choice} {index : Value} {number : Nat}
    {option twinOption : ChoiceOption} (picked : picked? choice index = some (number, option))
    (pickedToo : picked? choice.spelledOut index = some (number, twinOption)) :
    twinOption = option.spelledOut := by
  obtain ⟨_, _, present⟩ := picked?_eq_some.mp picked
  obtain ⟨_, _, presentToo⟩ := picked?_eq_some.mp pickedToo
  rw [Choice.spelledOut, List.getElem?_map, present, Option.map_some] at presentToo
  exact (Option.some.inj presentToo).symm

theorem sideBySide_spelledOut : Likeness.spelledOut.SideBySide stage stage.spelledOut where
  settings := rfl
  respelled := Item.action_like_spelledOut
  told := fun _ => rfl
  knows := fun _ => stage.story.contains_spelledOut _
  weaken := id
  read := by
    rintro state _ name rfl _
    rfl
  report := by
    rintro state _ notice _ rfl rfl
    simpa using .of_related rfl id rfl
  write := by
    rintro state _ name value rfl
    rfl
  enter := by
    rintro state _ target rfl _ _ _
    rfl
  idle := by
    rintro state _ rfl idle
    rw [State.spelledOut, idle, Option.map_none]
  waiting := by
    rintro state _ pending rfl waiting
    refine ⟨pending.spelledOut, ?_, pending.choice.like_spelledOut, rfl, ?_⟩
    · rw [State.spelledOut, waiting, Option.map_some]
    · intro index number option twinOption picked pickedToo
      cases picked_spelledOut picked pickedToo
      exact ⟨settle_spelledOut state pending number option, fun _ _ => trivial⟩

/-- Sessions over a story and over the one that is spelled out go in step. -/
theorem inStep_spelledOut :
    Likeness.spelledOut.InStep stage stage.spelledOut fun _ => True where
  toSideBySide := stage.sideBySide_spelledOut
  cursor := by
    rintro state _ rfl
    rfl
  here := fun _ => stage.story.itemAt?_spelledOut _ _
  past := by
    rintro state _ inline item rfl _ _
    exact past_spelledOut state inline
  asks := by
    rintro state _ inline item choice twinChoice rfl _ _ action spelled
    obtain rfl : choice.spelledOut = twinChoice := by
      have respelled := item.action_spelledOut
      rw [action, Action.spelledOut] at respelled
      exact Action.ask.inj (respelled.symm.trans spelled)
    exact present_spelledOut state inline choice
  goesTo := fun _ _ _ _ => trivial
  decides := fun _ _ _ _ => trivial

@[simp] theorem hasEnded_spelledOut :
    stage.spelledOut.hasEnded state.spelledOut = stage.hasEnded state := by
  have sameKnot : stage.spelledOut.story.get? state.spelledOut.cursor.knot =
      (stage.story.get? state.cursor.knot).map (List.map Item.spelledOut) :=
    stage.story.get?_map _ state.cursor.knot
  unfold hasEnded
  rw [sameKnot]
  congr 1
  · simp [State.spelledOut]
  · cases stage.story.get? state.cursor.knot with
    | none => rfl
    | some items => simp [State.spelledOut]

theorem responses_spelledOut (requests : List Request) :
    stage.spelledOut.responses state.spelledOut requests =
      (stage.responses state requests).map Outcome.spelledOut := by
  have shared : ∀ request ∈ requests,
      Likeness.spelledOut.Shares stage stage.spelledOut request := by
    intro request _
    apply Likeness.shares (fun _ => trivial)
    · rintro state _ rfl
      rfl
    · rintro _ state _ rfl
      simp
  have related : Likeness.spelledOut.Related state state.spelledOut := rfl
  have matched := stage.inStep_spelledOut.responses_match related shared (fun _ _ => trivial) id
  symm
  rw [← List.forall₂_eq_eq_eq, List.forall₂_map_left_iff]
  exact matched.imp fun _ _ same => (Prod.ext same.alike.states same.answers).symm

@[simp] theorem start_spelledOut (knot : String) :
    stage.spelledOut.start knot = stage.start knot := by
  unfold start
  rw [show stage.spelledOut.story.contains knot = stage.story.contains knot from
    stage.story.contains_spelledOut knot]

/-- Over the story that is spelled out a session starts in the same knots and in the same state. Any
row of requests is then answered the same, by events and by faults, those of a budget that is spent
among them, and behind each of them the session has the same cursor, variables, visits, options
taken, notices and log: its state is the same but for the spelling of the choice that waits. -/
theorem spelling_out_changes_nothing (stage : Stage) (knot : String) (requests : List Request) :
    stage.spelledOut.start knot = stage.start knot ∧
    ∀ state, stage.start knot = .ok state →
      stage.spelledOut.responses state requests =
        (stage.responses state requests).map Outcome.spelledOut := by
  refine ⟨stage.start_spelledOut knot, fun state started => ?_⟩
  obtain ⟨_, rfl⟩ := start_eq_ok.mp started
  -- No choice waits at the start, so there is nothing to spell out in the first state.
  exact stage.responses_spelledOut (.opening knot) requests

/-- A line within two conditions is shown with the last dispatch of the budget, and one dispatch
before it takes too many behind a label alone. -/
theorem spelling_out_changes_nothing_at_budget :
    let story (line : Item) (option : ChoiceOption) : Story := .ofList [("start",
      [.unlessSet "mood" (.unlessSet "mood" line), .choice ⟨none, [option]⟩, .divert "start"])]
    let stage : Stage := ⟨story (.bare "Rain.") (.bare "Stay."), ⟨3, false, by decide⟩, none⟩
    let requests : List Request := [.call (.cue .advance), .call (.cue .advance),
      .call (.cue (.commit (.int 1))), .visits "start", .ended]
    let state : State := .opening "start"
    stage.start "start" = .ok state ∧
      stage.spelledOut.story =
        story (.line (.ofBody "Rain.")) (.full "Stay." none none) ∧
      (stage.spelledOut.responses state requests).map Prod.snd =
        [.ok (.event (.line (.ofBody "Rain."))), .ok (.event (.choice none ["Stay."])),
          .error (.navigationLoop 3 ⟨"start", 2⟩), .ok (.count 2), .ok (.truth false)] := by
  intro story stage requests state
  have started : stage.start "start" = .ok state := rfl
  obtain ⟨_, responses⟩ := stage.spelling_out_changes_nothing "start" requests
  refine ⟨started, rfl, ?_⟩
  rw [responses state started]
  rfl

end Stage

end StoryGraph
