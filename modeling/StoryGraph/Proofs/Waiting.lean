import StoryGraph.Proofs.Ledger

/-!
A choice waits from the call that shows it to the answer that is accepted. Until then it
is shown again by every other call, and nothing that happens in between, to the
variables or to the story, changes what waits or where: the choice waits with its own
options, and the story is not asked for them again.

What waits is read off the cues that were not turned away: it is what the last of them
asked, so an answer that is accepted and then fails leaves nothing waiting.
-/

set_option autoImplicit false

namespace StoryGraph

/-- The event of the choice that waits. -/
def State.asking (state : State) : Option Event :=
  state.pending.map fun pending => .ofChoice pending.choice

@[simp] theorem State.asking_of_idle {state : State} (idle : state.pending = none) :
    state.asking = none := by
  rw [asking, idle]
  rfl

/-- The choice that an outcome shows, if it shows one. -/
def Outcome.asked : Outcome Event → Option Event
  | (_, .ok (.choice prompt labels)) => some (.choice prompt labels)
  | _ => none

/-- The last cue of a run that was not turned away. -/
def Scene.latest (scene : Scene) (deeds : List Deed) : Option Played :=
  ((scene.played deeds).filter fun played => !played.outcome.turnedAway).getLast?

/-- A value is the number of an option. -/
def Choice.Numbers (choice : Choice) (index : Value) : Prop :=
  ∃ number : Nat, index = .int number ∧ 1 ≤ number ∧ number ≤ choice.options.length

theorem Outcome.asked_eq_some {outcome : Outcome Event} {event : Event} :
    outcome.asked = some event ↔
      outcome.2 = .ok event ∧ ∃ prompt labels, event = .choice prompt labels := by
  obtain ⟨state, fault | shown⟩ := outcome
  · simp [asked]
  · cases shown <;> simp [asked] <;> grind

theorem Choice.numbers_iff_picked {choice : Choice} {index : Value} :
    choice.Numbers index ↔
      ∃ number option, Stage.picked? choice index = some (number, option) := by
  constructor
  · rintro ⟨number, rfl, positive, inRange⟩
    have present : number - 1 < choice.options.length := by omega
    refine ⟨number, choice.options[number - 1], ?_⟩
    exact Stage.picked?_eq_some.mpr ⟨rfl, positive, List.getElem?_eq_getElem present⟩
  · rintro ⟨number, option, picked⟩
    obtain ⟨same, positive, present⟩ := Stage.picked?_eq_some.mp picked
    have inRange := (List.getElem?_eq_some_iff.mp present).1
    exact ⟨number, same, positive, by omega⟩

namespace Stage

variable {stage : Stage} {state : State}

theorem Halts.asking {moment : Moment} {outcome : Outcome Event}
    (halts : stage.Halts moment outcome) (idle : moment.state.pending = none) :
    outcome.1.asking = outcome.asked := by
  obtain ⟨state, inline⟩ := moment
  cases halts.rules with
  | theEnd => exact State.asking_of_idle idle
  | say => exact State.asking_of_idle ((pending_past _ _).trans idle)
  | ask => rfl
  | astray => exact State.asking_of_idle idle
  | unassignable => exact State.asking_of_idle idle
  | undecided _ _ evaluated =>
      have same := (sameCourse_of_evaluate evaluated).pending
      exact State.asking_of_idle (same.trans ((pending_past _ _).trans idle))
  | unskipped _ _ reported =>
      have same := (sameCourse_of_report reported).pending
      exact State.asking_of_idle (same.trans idle)

theorem walkOn_asking (idle : state.pending = none) :
    (stage.walkOn state).1.asking = (stage.walkOn state).asked := by
  have rules := stage.walkOn_rules state
  generalize stage.walkOn state = outcome at rules
  cases rules with
  | ended _ goes halts => exact halts.asking (goes.pending.trans idle)
  | spent goes => exact State.asking_of_idle (goes.pending.trans idle)

/-- Behind a call that was not turned away, what waits is what it asked. -/
theorem play_asking {cue : Cue} (heard : (stage.play state cue).turnedAway = false) :
    (stage.play state cue).1.asking = (stage.play state cue).asked := by
  cases cue with
  | advance =>
      cases waiting : state.pending with
      | none => simpa [play, waiting] using walkOn_asking waiting
      | some pending => simp [play, State.asking, Outcome.asked, waiting, Event.ofChoice]
  | commit index =>
      rw [play] at heard ⊢
      have rules := stage.commit_rules state index
      generalize stage.commit state index = outcome at rules heard
      cases rules with
      | idle => cases heard
      | refused =>
          rw [Outcome.turnedAway, refusal_isRejection] at heard
          cases heard
      | failed _ _ unfulfilled =>
          exact State.asking_of_idle (idle_of_fulfil unfulfilled)
      | taken _ _ fulfilled =>
          exact walkOn_asking (idle_of_fulfil fulfilled)

/-- While a choice waits, only an answer that is accepted changes anything. -/
theorem play_of_waiting {cue : Cue} {pending : Pending}
    (waiting : state.pending = some pending)
    (refused : (Played.mk ⟨stage, state⟩ cue).accepted = false) :
    (stage.play state cue).1 = state := by
  cases cue with
  | advance => simp [play, waiting]
  | commit index =>
      apply play_of_turnedAway
      simpa [Played.accepted, Played.outcome] using refused

theorem accepts_iff_numbers {pending : Pending} (waiting : state.pending = some pending)
    (index : Value) : state.Accepts index ↔ pending.choice.Numbers index := by
  rw [Choice.numbers_iff_picked]
  constructor
  · rintro ⟨other, number, option, waits, picked⟩
    rw [waiting] at waits
    cases waits
    exact ⟨number, option, picked⟩
  · rintro ⟨number, option, picked⟩
    exact ⟨pending, number, option, waiting, picked⟩

theorem commit_of_not_numbers {pending : Pending} (waiting : state.pending = some pending)
    {index : Value} (unnumbered : ¬ pending.choice.Numbers index) :
    stage.commit state index = (state, .error (refusal pending index)) := by
  cases picked : picked? pending.choice index with
  | none => simp [commit, waiting, picked]
  | some pick => exact absurd (Choice.numbers_iff_picked.mpr ⟨_, _, picked⟩) unnumbered

theorem commit_noPendingChoice_iff (stage : Stage) (state : State) (index : Value) :
    (stage.commit state index).2 = .error .noPendingChoice ↔ state.pending = none := by
  constructor
  · intro missing
    cases waiting : state.pending with
    | none => rfl
    | some pending =>
        exfalso
        by_cases numbered : pending.choice.Numbers index
        · have heard := stage.commit_of_accepts ((accepts_iff_numbers waiting index).mpr numbered)
          rw [Outcome.turnedAway_of_error missing] at heard
          cases heard
        · rw [commit_of_not_numbers waiting numbered, refusal] at missing
          split at missing <;> cases missing
  · intro idle
    simp [commit, idle]

/-- Of the values with a text those are invalid that number no option. -/
theorem commit_invalidChoice_iff (stage : Stage) {pending : Pending}
    (waiting : state.pending = some pending) {index : Value} {text : String}
    (printable : index.text? = some text) :
    (∃ shown knot options,
        (stage.commit state index).2 = .error (.invalidChoice shown knot options)) ↔
      ¬ pending.choice.Numbers index := by
  constructor
  · rintro ⟨shown, knot, options, invalid⟩ numbered
    have heard := stage.commit_of_accepts ((accepts_iff_numbers waiting index).mpr numbered)
    rw [Outcome.turnedAway_of_error invalid] at heard
    cases heard
  · intro unnumbered
    refine ⟨text, pending.knot, pending.choice.options.length, ?_⟩
    simp [commit_of_not_numbers waiting unnumbered, refusal, printable]

/-- Of the values with a text those are turned away that come too early or are invalid. -/
theorem turnedAway_iff_of_text (stage : Stage) (state : State) {index : Value} {text : String}
    (printable : index.text? = some text) :
    (stage.commit state index).turnedAway = true ↔
      (stage.commit state index).2 = .error .noPendingChoice ∨
        ∃ shown knot options,
          (stage.commit state index).2 = .error (.invalidChoice shown knot options) := by
  constructor
  · intro turned
    cases waiting : state.pending with
    | none => exact .inl ((stage.commit_noPendingChoice_iff state index).mpr waiting)
    | some pending =>
        right
        rw [stage.turnedAway_commit_iff, accepts_iff_numbers waiting] at turned
        exact (stage.commit_invalidChoice_iff waiting printable).mpr turned
  · rintro (missing | ⟨_, _, _, invalid⟩)
    · rw [Outcome.turnedAway_of_error missing]
      rfl
    · rw [Outcome.turnedAway_of_error invalid]
      rfl

end Stage

/-- A scene in which a choice waits. -/
structure Scene.Waits (scene : Scene) (pending : Pending) : Prop where
  waiting : scene.state.pending = some pending
  shownAgain : scene.stage.advance scene.state =
    (scene.state, .ok (.ofChoice pending.choice))
  notEnded : scene.stage.hasEnded scene.state = false
  invalid : ∀ index text, index.text? = some text →
    ((∃ shown knot options, (scene.stage.commit scene.state index).2 =
        .error (.invalidChoice shown knot options)) ↔ ¬ pending.choice.Numbers index)
  answered : ∀ (number : Nat) option, 1 ≤ number →
    pending.choice.options[number - 1]? = some option →
    scene.stage.commit scene.state (.int number) =
        (scene.stage.fulfil (Stage.settle scene.state pending number option) option).andThen
          (fun after _ => scene.stage.walkOn after) ∧
      (scene.stage.commit scene.state (.int number)).1.ledger.choices =
        scene.state.ledger.choices.push ⟨pending.knot, pending.position, number⟩

namespace Scene

variable {scene : Scene} {pending : Pending}

theorem waits_of_pending (waiting : scene.state.pending = some pending) :
    scene.Waits pending where
  waiting := waiting
  shownAgain := Stage.advance_of_waiting waiting
  notEnded := by simp [Stage.hasEnded, waiting]
  invalid := fun _ _ printable => scene.stage.commit_invalidChoice_iff waiting printable
  answered := by
    intro number option positive present
    have picked := Stage.picked?_eq_some.mpr ⟨rfl, positive, present⟩
    have committed :
        scene.stage.commit scene.state (.int number) =
          (scene.stage.fulfil (Stage.settle scene.state pending number option) option).andThen
            fun after _ => scene.stage.walkOn after :=
      Stage.commit_of_picked waiting picked
    refine ⟨committed, ?_⟩
    rw [committed, (scene.stage.option_accounts _ option).choices, Stage.settle_ledger]
    rfl

/-- Without an answer that is accepted, a session stays where a choice waits. -/
theorem run_of_waiting (deeds : List Deed) (waiting : scene.state.pending = some pending)
    (refused : ∀ played ∈ scene.played deeds, played.accepted = false) :
    scene.state.SamePlace (scene.run deeds).state := by
  induction scene, deeds using run_induction with
  | stay scene => exact .refl _
  | aside scene deed deeds noCue inductionHypothesis =>
      rw [played_of_no_cue noCue] at refused
      have same := after_samePlace noCue scene
      exact same.trans (inductionHypothesis (same.pending.trans waiting) refused)
  | cue scene cue deeds inductionHypothesis =>
      rw [played_cue] at refused
      obtain ⟨first, rest⟩ := List.forall_mem_cons.mp refused
      have same : (Played.mk scene cue).next.state = scene.state :=
        Stage.play_of_waiting waiting first
      have stays := inductionHypothesis (same ▸ waiting) rest
      rw [same] at stays
      exact stays

@[simp] theorem latest_cue (scene : Scene) (cue : Cue) (deeds : List Deed) :
    scene.latest (.call (.cue cue) :: deeds) =
      ((Played.mk scene cue).next.latest deeds).or
        (if (Played.mk scene cue).outcome.turnedAway then none else some ⟨scene, cue⟩) := by
  rw [latest, latest, played_cue]
  cases turned : (Played.mk scene cue).outcome.turnedAway with
  | true => simp [turned]
  | false =>
      rw [List.filter_cons_of_pos (by simp [turned]), List.getLast?_cons]
      cases (List.filter _ ((Played.mk scene cue).next.played deeds)).getLast? <;> simp

/-- What waits behind a run is what the latest cue asked, or what waited before if all were
turned away. -/
theorem asking_run (scene : Scene) (deeds : List Deed) :
    (scene.run deeds).state.asking =
      match scene.latest deeds with
      | some played => played.outcome.asked
      | none => scene.state.asking := by
  induction scene, deeds using run_induction with
  | stay scene => rfl
  | aside scene deed deeds noCue inductionHypothesis =>
      rw [run_cons, inductionHypothesis, latest, latest, played_of_no_cue noCue, State.asking,
        State.asking, (after_samePlace noCue scene).pending]
  | cue scene cue deeds inductionHypothesis =>
      rw [run_cons, after_cue, inductionHypothesis, latest_cue]
      cases (Played.mk scene cue).next.latest deeds with
      | some played => rfl
      | none =>
          rw [Option.none_or]
          cases turned : (Played.mk scene cue).outcome.turnedAway with
          | true =>
              have same : (Played.mk scene cue).outcome.1 = scene.state :=
                Stage.play_of_turnedAway turned
              simp [same]
          | false => exact Stage.play_asking turned

/-- What waits behind a run in which nothing waited before. -/
theorem asking_run_eq_some {event : Event} (idle : scene.state.pending = none)
    (deeds : List Deed) :
    (scene.run deeds).state.asking = some event ↔ ∃ played,
      scene.latest deeds = some played ∧ played.outcome.2 = .ok event ∧
        ∃ prompt labels, event = .choice prompt labels := by
  have asking : (scene.run deeds).state.asking =
      (scene.latest deeds).bind fun played => played.outcome.asked := by
    rw [scene.asking_run, State.asking_of_idle idle]
    cases scene.latest deeds <;> rfl
  rw [asking, Option.bind_eq_some_iff]
  simp only [Outcome.asked_eq_some]

theorem latest_of_pending_run (idle : scene.state.pending = none) {deeds : List Deed}
    (waiting : (scene.run deeds).state.pending = some pending) :
    ∃ played, scene.latest deeds = some played ∧
      played.outcome.2 = .ok (.ofChoice pending.choice) := by
  have asking : (scene.run deeds).state.asking = some (.ofChoice pending.choice) := by
    rw [State.asking, waiting]
    rfl
  obtain ⟨played, last, shown, _⟩ := (asking_run_eq_some idle deeds).mp asking
  exact ⟨played, last, shown⟩

theorem pending_run_iff (idle : scene.state.pending = none) (deeds : List Deed) :
    (scene.run deeds).state.pending.isSome = true ↔ ∃ played prompt labels,
      scene.latest deeds = some played ∧ played.outcome.2 = .ok (.choice prompt labels) := by
  constructor
  · intro waits
    obtain ⟨pending, waiting⟩ := Option.isSome_iff_exists.mp waits
    obtain ⟨played, last, event⟩ := latest_of_pending_run idle waiting
    exact ⟨played, _, _, last, event⟩
  · rintro ⟨played, prompt, labels, last, event⟩
    have asking := (asking_run_eq_some idle deeds).mpr ⟨played, last, event, prompt, labels, rfl⟩
    obtain ⟨pending, waiting, _⟩ := Option.map_eq_some_iff.mp asking
    rw [waiting]
    rfl

/-- Behind every run from a start, with failed calls and changes of the story among the
deeds: a choice waits exactly if the last cue that was not turned away showed it, and no
answer comes too early exactly then. It waits on, at its place and with its options,
until an answer to it is accepted. -/
theorem choice_waits_until_accepted (stage : Stage) (knot : String) (state : State)
    (started : stage.start knot = .ok state) (deeds : List Deed) :
    let scene : Scene := ⟨stage, state⟩
    let now := scene.run deeds
    (now.state.pending.isSome = true ↔ ∃ played prompt labels,
      scene.latest deeds = some played ∧ played.outcome.2 = .ok (.choice prompt labels)) ∧
    (∀ index, (now.stage.commit now.state index).2 = .error .noPendingChoice ↔
      now.state.pending = none) ∧
    (∀ index text, index.text? = some text →
      ((now.stage.commit now.state index).turnedAway = true ↔
        (now.stage.commit now.state index).2 = .error .noPendingChoice ∨
          ∃ shown knot options, (now.stage.commit now.state index).2 =
            .error (.invalidChoice shown knot options))) ∧
    (∀ cue, (now.stage.play now.state cue).turnedAway = true →
      (now.stage.play now.state cue).1 = now.state) ∧
    ∀ pending, now.state.pending = some pending →
      (∃ played, scene.latest deeds = some played ∧
        played.outcome.2 = .ok (.ofChoice pending.choice)) ∧
      ∀ more, (∀ played ∈ now.played more, played.accepted = false) →
        let later := now.run more
        later.Waits pending ∧ later.state.cursor = now.state.cursor ∧
          later.state.ledger = now.state.ledger := by
  obtain ⟨_, rfl⟩ := Stage.start_eq_ok.mp started
  intro scene now
  have idle : scene.state.pending = none := rfl
  refine ⟨?_, ?_, ?_, ?_, ?_⟩
  · exact pending_run_iff idle deeds
  · exact now.stage.commit_noPendingChoice_iff now.state
  · intro index text printable
    exact now.stage.turnedAway_iff_of_text now.state printable
  · intro cue
    exact Stage.play_of_turnedAway
  · intro pending waiting
    refine ⟨latest_of_pending_run idle waiting, ?_⟩
    intro more refused later
    have same := run_of_waiting more waiting refused
    exact ⟨waits_of_pending (same.pending.trans waiting), same.cursor, same.ledger⟩

/-- A choice outlives its knot: it is shown again, refuses a boolean and is then answered. -/
theorem choice_waits_until_accepted_without_knot :
    let choice : Choice := ⟨none, [.bare "Stay.", .bare "Go."]⟩
    let stage := Stage.ofKnots [("start", [.choice choice])]
    let now := (Scene.mk stage (.opening "start")).run [.call (.cue .advance)]
    let later := now.run [.remove "start", .call (.cue (.commit (.boolean true))),
      .call (.assign "mood" (.int 1)), .call (.cue .advance), .call (.cue (.commit (.int 3)))]
    stage.start "start" = .ok (.opening "start") ∧
      later.Waits ⟨choice, "start", 1, false⟩ ∧
      (later.stage.commit later.state (.int 2)).1.ledger.choices = #[⟨"start", 1, 2⟩] := by
  intro choice stage now later
  have started : stage.start "start" = .ok (.opening "start") := rfl
  have waiting : now.state.pending = some ⟨choice, "start", 1, false⟩ := rfl
  obtain ⟨_, _, _, _, waits⟩ := choice_waits_until_accepted stage "start" _ started
    [.call (.cue .advance)]
  obtain ⟨_, unanswered⟩ := waits _ waiting
  obtain ⟨waitsLater, _, _⟩ := unanswered [.remove "start",
    .call (.cue (.commit (.boolean true))), .call (.assign "mood" (.int 1)),
    .call (.cue .advance), .call (.cue (.commit (.int 3)))] (by decide +kernel)
  exact ⟨started, waitsLater, (waitsLater.answered 2 (.bare "Go.") (by decide) rfl).2⟩

end Scene

end StoryGraph
