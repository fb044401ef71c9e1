import Mathlib.Data.List.Forall2
import StoryGraph.Proofs.Scenes

/-!
The ledger is exact. A divert is met where one is dispatched, bare or inline, and where
an option that was taken has one; it is carried out if its target is a knot then. The
diverts that are met are noted here beside the walk, by the moments at which it
dispatches, so that visits can be counted against them.

A call accounts for its ledger if its visits are the diverts carried out and if a divert
that is lost stops it, with the state as it was. Calls account for their ledgers part by
part: a dispatch does, and of two parts the second begins where the first ended.
-/

set_option autoImplicit false

namespace StoryGraph

/-- A divert that a call meets: the state then, and the knot to go to. -/
structure Divert where
  state : State
  target : String

/-- The knots entered by diverts, with those passed over that lead to no knot. -/
def Story.entered (story : Story) (diverts : List Divert) : List String :=
  (diverts.map Divert.target).filter story.contains

@[simp] theorem Story.entered_append (story : Story) (first second : List Divert) :
    story.entered (first ++ second) = story.entered first ++ story.entered second := by
  simp [entered]

/-- What came of a state is accounted for by the diverts met on the way. -/
structure Accounts {α : Type} (story : Story) (before : State) (diverts : List Divert)
    (outcome : Outcome α) : Prop where
  visits : ∀ knot, outcome.1.ledger.visitCount knot =
    before.ledger.visitCount knot + (story.entered diverts).count knot
  choices : outcome.1.ledger.choices = before.ledger.choices
  lost : ∀ divert ∈ diverts, story.contains divert.target = false →
    outcome.1 = divert.state ∧ outcome.2 = .error (.unknownDivert divert.target)
  stopped : ∀ target, outcome.2 = .error (.unknownDivert target) →
    story.contains target = false ∧ diverts.getLast? = some ⟨outcome.1, target⟩

namespace Accounts

variable {α β : Type} {story : Story} {before : State} {diverts : List Divert}

/-- What leaves the ledger alone and meets no divert. -/
theorem of_sameLedger {outcome : Outcome α} (same : outcome.1.ledger = before.ledger)
    (noDivert : ∀ target, outcome.2 ≠ .error (.unknownDivert target)) :
    Accounts story before [] outcome where
  visits := by simp [same, Story.entered]
  choices := by rw [same]
  lost := by simp
  stopped := fun target stopped => absurd stopped (noDivert target)

theorem enter {target : String} (known : story.contains target = true) (answer : α) :
    Accounts story before [⟨before, target⟩] (before.enter target, .ok answer) where
  visits := by
    intro knot
    by_cases same : knot = target
    · simp [State.enter, State.writeLog, Story.entered, known, same]
    · simp [State.enter, State.writeLog, Story.entered, known, same, Ne.symm same]
  choices := rfl
  lost := by simp [known]
  stopped := by simp

theorem astray {target : String} (unknown : story.contains target = false) :
    Accounts story before [⟨before, target⟩]
      ((before, .error (.unknownDivert target)) : Outcome α) where
  visits := by simp [Story.entered, unknown]
  choices := rfl
  lost := by simp
  stopped := by
    intro other stopped
    cases stopped
    exact ⟨unknown, rfl⟩

/-- Two parts, the second from where the first ended. -/
theorem trans {middle : State} {answer : α} {later : List Divert} {outcome : Outcome β}
    (first : Accounts story before diverts (middle, .ok answer))
    (second : Accounts story middle later outcome) :
    Accounts story before (diverts ++ later) outcome where
  visits := by
    intro knot
    simp [second.visits, first.visits, Nat.add_assoc]
  choices := second.choices.trans first.choices
  lost := by
    intro divert met unknown
    rcases List.mem_append.mp met with earlier | later
    · cases (first.lost divert earlier unknown).2
    · exact second.lost divert later unknown
  stopped := by
    intro target stopped
    obtain ⟨unknown, last⟩ := second.stopped target stopped
    exact ⟨unknown, by rw [List.getLast?_append, last, Option.some_or]⟩

/-- A part that fails is the last one. -/
theorem failed {state : State} {fault : Fault}
    (accounts : Accounts story before diverts ((state, .error fault) : Outcome α)) :
    Accounts story before diverts ((state, .error fault) : Outcome β) where
  visits := accounts.visits
  choices := accounts.choices
  lost := by
    intro divert met unknown
    obtain ⟨same, stopped⟩ := accounts.lost divert met unknown
    cases stopped
    exact ⟨same, rfl⟩
  stopped := by
    intro target stopped
    cases stopped
    exact accounts.stopped target rfl

end Accounts

namespace Stage

/-- The moments at which a walk with a budget dispatches, in order. -/
def dispatched (stage : Stage) : Nat → Moment → List Moment
  | 0, _ => []
  | budget + 1, moment =>
      moment ::
        match stage.step moment.state moment.inline with
        | (after, .ok (.more inline)) => stage.dispatched budget ⟨after, inline⟩
        | _ => []

/-- The divert that is dispatched at a moment, if one is. -/
def divertAt? (stage : Stage) (moment : Moment) : Option Divert :=
  match stage.next? moment.state moment.inline with
  | some (.divert target) => some ⟨moment.state, target⟩
  | _ => none

/-- The diverts that a walk meets. -/
def walkDiverts (stage : Stage) (budget : Nat) (moment : Moment) : List Divert :=
  (stage.dispatched budget moment).filterMap stage.divertAt?

/-- The diverts met behind a choice that was settled: the option's, once its variables
are set, and those of the walk after it. -/
def optionDiverts (stage : Stage) (state : State) (option : ChoiceOption) : List Divert :=
  match stage.assignAll state option.assignments with
  | (_, .error _) => []
  | (assigned, .ok _) =>
      (option.target.map (Divert.mk assigned)).toList ++
        match stage.follow assigned option.target with
        | (_, .error _) => []
        | (after, .ok _) => stage.walkDiverts stage.settings.maxSteps ⟨after, none⟩

end Stage

/-- The diverts that a cue meets, in order. -/
def Played.diverts (played : Played) : List Divert :=
  let ⟨stage, state⟩ := played.scene
  match played.cue, state.pending with
  | .advance, none => stage.walkDiverts stage.settings.maxSteps ⟨state, none⟩
  | .advance, some _ => []
  | .commit _, none => []
  | .commit index, some pending =>
      match Stage.picked? pending.choice index with
      | none => []
      | some (number, option) =>
          stage.optionDiverts (Stage.settle state pending number option) option

/-- The knots that a cue enters by diverts. -/
def Played.entered (played : Played) : List String :=
  played.scene.stage.story.entered played.diverts

/-- A record tells of an answer: where the choice waited, and the index that was given. -/
structure ChoiceRecord.TellsOf (record : ChoiceRecord) (played : Played) : Prop where
  index : played.cue = .commit (.int record.option)
  place : ∃ pending, played.scene.state.pending = some pending ∧
    record.knot = pending.knot ∧ record.position = pending.position

namespace Stage

variable {stage : Stage} {state : State}

theorem divertAt?_of_next {moment : Moment} {item : Item}
    (next : stage.next? moment.state moment.inline = some item) :
    stage.divertAt? moment =
      match item.action with
      | .goTo target => some ⟨moment.state, target⟩
      | _ => none := by
  rw [divertAt?, next]
  cases item with
  | plain value =>
      cases value with
      | scalar scalar => cases scalar <;> rfl
      | list items => rfl
      | dict entries => rfl
  | _ => rfl

/-- A dispatch of something else than a divert leaves the ledger alone. -/
theorem accounts_of_noDivert {α : Type} {inline : Option Item} {item : Item}
    {outcome : Outcome α} (next : stage.next? state inline = some item)
    (noDivert : ∀ target, item.action ≠ .goTo target)
    (same : outcome.1.ledger = state.ledger)
    (unfailing : ∀ target, outcome.2 ≠ .error (.unknownDivert target)) :
    Accounts stage.story state (stage.divertAt? ⟨state, inline⟩).toList outcome := by
  have none : stage.divertAt? ⟨state, inline⟩ = none := by
    rw [divertAt?_of_next next]
    split
    · exact absurd ‹_› (noDivert _)
    · rfl
  rw [none]
  exact .of_sameLedger same unfailing

@[simp] theorem ledger_past (state : State) (inline : Option Item) :
    (past state inline).ledger = state.ledger := by
  cases inline <;> rfl

theorem Moves.accounts {moment next : Moment} (moves : stage.Moves moment next) :
    Accounts stage.story moment.state (stage.divertAt? moment).toList
      (next.state, .ok ()) := by
  obtain ⟨state, inline⟩ := moment
  cases moves.rules with
  | goTo next action known =>
      rw [divertAt?_of_next next, action]
      exact .enter known ()
  | assign next action isScalar =>
      apply accounts_of_noDivert next (by simp [action]) _ (by simp)
      exact ledger_past _ _
  | decide next action evaluated =>
      apply accounts_of_noDivert next (by simp [action]) _ (by simp)
      simpa using (sameCourse_of_evaluate evaluated).ledger
  | skip next action reported =>
      apply accounts_of_noDivert next (by simp [action]) _ (by simp)
      simpa using (sameCourse_of_report reported).ledger

theorem Halts.accounts {moment : Moment} {outcome : Outcome Event}
    (halts : stage.Halts moment outcome) :
    Accounts stage.story moment.state (stage.divertAt? moment).toList outcome := by
  obtain ⟨state, inline⟩ := moment
  cases halts.rules with
  | theEnd nothing =>
      rw [show stage.divertAt? ⟨state, inline⟩ = none by rw [divertAt?, nothing]]
      exact .of_sameLedger rfl (by simp)
  | say next action =>
      apply accounts_of_noDivert next (by simp [action]) _ (by simp)
      simp
  | ask next action => exact accounts_of_noDivert next (by simp [action]) rfl (by simp)
  | astray next action unknown =>
      rw [divertAt?_of_next next, action]
      exact .astray unknown
  | unassignable next action nonScalar =>
      exact accounts_of_noDivert next (by simp [action]) rfl (by simp)
  | undecided next action evaluated =>
      apply accounts_of_noDivert next (by simp [action])
      · simpa using (sameCourse_of_evaluate evaluated).ledger
      · rcases evaluate_error evaluated with ⟨_, rfl⟩ | ⟨_, _, rfl⟩ <;> simp
  | unskipped next action reported =>
      apply accounts_of_noDivert next (by simp [action])
      · exact (sameCourse_of_report reported).ledger
      · rw [report_error reported]
        simp

theorem walkDiverts_of_moves {moment next : Moment} (moves : stage.Moves moment next)
    (budget : Nat) :
    stage.walkDiverts (budget + 1) moment =
      (stage.divertAt? moment).toList ++ stage.walkDiverts budget next := by
  unfold Moves at moves
  rw [walkDiverts, dispatched, moves, List.filterMap_cons]
  cases stage.divertAt? moment <;> rfl

theorem walkDiverts_of_halts {moment : Moment} {outcome : Outcome Event}
    (halts : stage.Halts moment outcome) (budget : Nat) :
    stage.walkDiverts (budget + 1) moment = (stage.divertAt? moment).toList := by
  unfold Halts at halts
  rw [walkDiverts, dispatched, halts, List.filterMap_cons]
  obtain ⟨_, fault | event⟩ := outcome <;> cases stage.divertAt? moment <;> rfl

theorem walk_accounts (stage : Stage) (budget : Nat) (moment : Moment) :
    Accounts stage.story moment.state (stage.walkDiverts budget moment)
      (stage.walk budget moment.state moment.inline) := by
  induction budget generalizing moment with
  | zero => exact .of_sameLedger rfl (by simp [walk])
  | succ budget inductionHypothesis =>
      rcases stage.moves_or_halts moment with ⟨next, moves⟩ | ⟨outcome, halts⟩
      · rw [walkDiverts_of_moves moves, walk_succ_of_moves moves]
        exact moves.accounts.trans (inductionHypothesis next)
      · rw [walkDiverts_of_halts halts, walk_succ_of_halts halts]
        exact halts.accounts

theorem assignAll_accounts (stage : Stage) (state : State)
    (assignments : List (String × Value)) :
    Accounts stage.story state [] (stage.assignAll state assignments) := by
  apply Accounts.of_sameLedger
  · obtain ⟨bindings, assigned⟩ := stage.assignAll_bindings state assignments
    rw [assigned]
  · intro target stopped
    obtain ⟨_, _, mismatch⟩ := assignAll_error (Prod.ext rfl stopped)
    cases mismatch

theorem follow_accounts (stage : Stage) (state : State) (target : Option String) :
    Accounts stage.story state (target.map (Divert.mk state)).toList
      (stage.follow state target) := by
  cases target with
  | none => exact .of_sameLedger rfl (by simp [follow])
  | some target =>
      cases known : stage.story.contains target with
      | true => simpa [follow, known] using Accounts.enter known ()
      | false => simpa [follow, known] using Accounts.astray known

theorem walkOn_accounts (stage : Stage) (state : State) :
    Accounts stage.story state (stage.walkDiverts stage.settings.maxSteps ⟨state, none⟩)
      (stage.walkOn state) :=
  stage.walk_accounts stage.settings.maxSteps ⟨state, none⟩

theorem option_accounts (stage : Stage) (state : State) (option : ChoiceOption) :
    Accounts stage.story state (stage.optionDiverts state option)
      ((stage.fulfil state option).andThen fun after _ => stage.walkOn after) := by
  have setting := stage.assignAll_accounts state option.assignments
  unfold fulfil optionDiverts
  rcases assigning : stage.assignAll state option.assignments with ⟨assigned, fault | _⟩
  · rw [assigning] at setting
    exact setting.failed
  · rw [assigning] at setting
    have leading := stage.follow_accounts assigned option.target
    rcases leads : stage.follow assigned option.target with ⟨after, fault | _⟩
    · rw [leads] at leading
      simpa [leads] using setting.trans leading.failed
    · rw [leads] at leading
      have walking := stage.walkOn_accounts after
      simpa [leads] using setting.trans (leading.trans walking)

end Stage

namespace Played

variable {played : Played}

theorem diverts_of_accepts {stage : Stage} {state : State} {index : Value} {pending : Pending}
    {number : Nat} {option : ChoiceOption} (waiting : state.pending = some pending)
    (picked : Stage.picked? pending.choice index = some (number, option)) :
    (Played.mk ⟨stage, state⟩ (.commit index)).diverts =
      stage.optionDiverts (Stage.settle state pending number option) option := by
  simp only [diverts, waiting, picked]

theorem diverts_of_not_accepts {stage : Stage} {state : State} {index : Value}
    (refused : ¬ state.Accepts index) :
    (Played.mk ⟨stage, state⟩ (.commit index)).diverts = [] := by
  cases waiting : state.pending with
  | none => simp only [diverts, waiting]
  | some pending =>
      cases picked : Stage.picked? pending.choice index with
      | none => simp only [diverts, waiting, picked]
      | some pick => exact absurd ⟨pending, pick.1, pick.2, waiting, picked⟩ refused

/-- A cue writes at most one record, and then accounts for its diverts. -/
theorem accounts (played : Played) :
    ∃ settled : State,
      settled.ledger.visits = played.scene.state.ledger.visits ∧
      (played.accepted = false → settled.ledger = played.scene.state.ledger) ∧
      (played.accepted = true → ∃ record, record.TellsOf played ∧
        settled.ledger.choices = played.scene.state.ledger.choices.push record) ∧
      Accounts played.scene.stage.story settled played.diverts played.outcome := by
  obtain ⟨⟨stage, state⟩, cue⟩ := played
  cases cue with
  | advance =>
      refine ⟨state, rfl, fun _ => rfl, by simp [accepted], ?_⟩
      cases waiting : state.pending with
      | none =>
          simp only [diverts, waiting, outcome, Stage.play, Stage.advance_of_idle]
          exact stage.walkOn_accounts state
      | some pending =>
          simp only [diverts, waiting, outcome, Stage.play, Stage.advance_of_waiting waiting]
          exact .of_sameLedger rfl (by simp)
  | commit index =>
      by_cases accepts : state.Accepts index
      · have accepted := (accepted_commit_iff stage state index).mpr accepts
        obtain ⟨pending, number, option, waiting, picked⟩ := accepts
        obtain ⟨rfl, _, _⟩ := Stage.picked?_eq_some.mp picked
        refine ⟨Stage.settle state pending number option, ?_, ?_, ?_, ?_⟩
        · simp [Ledger.recordChoice]
        · simp [accepted]
        · intro _
          refine ⟨⟨pending.knot, pending.position, number⟩, ?_, ?_⟩
          · exact ⟨rfl, pending, waiting, rfl, rfl⟩
          · simp [Ledger.recordChoice]
        · rw [diverts_of_accepts waiting picked]
          simp only [outcome, Stage.play, Stage.commit_of_picked waiting picked]
          exact stage.option_accounts _ option
      · obtain ⟨fault, rejection, refused⟩ := stage.commit_of_not_accepts accepts
        refine ⟨state, rfl, fun _ => rfl, ?_, ?_⟩
        · intro accepted
          exact absurd ((accepted_commit_iff ..).mp accepted) accepts
        · rw [diverts_of_not_accepts accepts]
          simp only [outcome, Stage.play, refused]
          have unstopped : ∀ target, fault ≠ .unknownDivert target := by
            rintro target rfl
            cases rejection
          exact .of_sameLedger rfl (by simpa using unstopped)

theorem visitCount_outcome (played : Played) (knot : String) :
    played.outcome.1.ledger.visitCount knot =
      played.scene.state.ledger.visitCount knot + played.entered.count knot := by
  obtain ⟨settled, sameVisits, _, _, accounts⟩ := played.accounts
  rw [accounts.visits, entered]
  simp only [Ledger.visitCount, sameVisits]

/-- A divert that leads to no knot stops its call with the state as it was. -/
theorem outcome_of_astray {divert : Divert} (met : divert ∈ played.diverts)
    (unknown : played.scene.stage.story.contains divert.target = false) :
    played.outcome = (divert.state, .error (.unknownDivert divert.target)) := by
  obtain ⟨_, _, _, _, accounts⟩ := played.accounts
  obtain ⟨same, stopped⟩ := accounts.lost divert met unknown
  exact Prod.ext same stopped

theorem astray_of_outcome {left : State} {target : String}
    (outcome : played.outcome = (left, .error (.unknownDivert target))) :
    played.scene.stage.story.contains target = false ∧
      played.diverts.getLast? = some ⟨left, target⟩ := by
  obtain ⟨_, _, _, _, accounts⟩ := played.accounts
  rw [outcome] at accounts
  exact accounts.stopped target rfl

theorem choices_outcome_of_refused (refused : played.accepted = false) :
    played.outcome.1.ledger.choices = played.scene.state.ledger.choices := by
  obtain ⟨settled, _, unwritten, _, accounts⟩ := played.accounts
  rw [accounts.choices, unwritten refused]

theorem choices_outcome_of_accepted (accepted : played.accepted = true) :
    ∃ record, record.TellsOf played ∧
      played.outcome.1.ledger.choices = played.scene.state.ledger.choices.push record := by
  obtain ⟨settled, _, _, written, accounts⟩ := played.accounts
  obtain ⟨record, tells, choices⟩ := written accepted
  exact ⟨record, tells, accounts.choices.trans choices⟩

end Played

namespace Scene

theorem visitCount_run (scene : Scene) (deeds : List Deed) (knot : String) :
    (scene.run deeds).state.ledger.visitCount knot =
      scene.state.ledger.visitCount knot +
        ((scene.played deeds).flatMap Played.entered).count knot := by
  induction scene, deeds using run_induction with
  | stay scene => rfl
  | aside scene deed deeds noCue inductionHypothesis =>
      rw [run_cons, inductionHypothesis, played_of_no_cue noCue,
        (after_samePlace noCue scene).ledger]
  | cue scene cue deeds inductionHypothesis =>
      simp [inductionHypothesis, Played.visitCount_outcome, Nat.add_assoc]

/-- A run adds the records of the answers that are accepted in it. -/
theorem choices_run (scene : Scene) (deeds : List Deed) :
    ∃ records, (scene.run deeds).state.ledger.choices.toList =
        scene.state.ledger.choices.toList ++ records ∧
      List.Forall₂ ChoiceRecord.TellsOf records
        ((scene.played deeds).filter Played.accepted) := by
  induction scene, deeds using run_induction with
  | stay scene => exact ⟨[], by simp, .nil⟩
  | aside scene deed deeds noCue inductionHypothesis =>
      obtain ⟨records, choices, tell⟩ := inductionHypothesis
      refine ⟨records, ?_, ?_⟩
      · simp [choices, (after_samePlace noCue scene).ledger]
      · simpa [noCue] using tell
  | cue scene cue deeds inductionHypothesis =>
      obtain ⟨records, choices, tell⟩ := inductionHypothesis
      rw [run_cons, after_cue, choices, played_cue]
      by_cases accepted : (Played.mk scene cue).accepted = true
      · obtain ⟨record, tells, written⟩ := Played.choices_outcome_of_accepted accepted
        refine ⟨record :: records, ?_, ?_⟩
        · simp [Played.next, written]
        · rw [List.filter_cons_of_pos accepted]
          exact .cons tells tell
      · have refused := Bool.eq_false_iff.mpr accepted
        refine ⟨records, ?_, ?_⟩
        · rw [Played.next, Played.choices_outcome_of_refused refused]
        · rw [List.filter_cons_of_neg accepted]
          exact tell

/-- Over every run from a start, with failed calls and changes of the story among the
deeds: a knot was visited once for the start in it and once for every divert to it that
was carried out; the records are those of the accepted answers in order; a divert that
leads to no knot stops its call with the state as it was, and only such a divert does;
and nothing is ever taken back. -/
theorem ledger_exact (stage : Stage) (knot : String) (state : State)
    (started : stage.start knot = .ok state) (deeds : List Deed) :
    let scene : Scene := ⟨stage, state⟩
    let ledger := (scene.run deeds).state.ledger
    let played := scene.played deeds
    (∀ other, ledger.visitCount other =
      (if other = knot then 1 else 0) + (played.flatMap Played.entered).count other) ∧
    List.Forall₂ ChoiceRecord.TellsOf ledger.choices.toList (played.filter Played.accepted) ∧
    (∀ each ∈ played, ∀ divert ∈ each.diverts,
      each.scene.stage.story.contains divert.target = false →
        each.outcome = (divert.state, .error (.unknownDivert divert.target))) ∧
    (∀ each ∈ played, ∀ left target, each.outcome = (left, .error (.unknownDivert target)) →
      each.scene.stage.story.contains target = false ∧
        each.diverts.getLast? = some ⟨left, target⟩) ∧
    ∀ more,
      let later := (scene.run (deeds ++ more)).state.ledger
      (∀ other, ledger.visitCount other ≤ later.visitCount other) ∧
        ledger.choices.toList <+: later.choices.toList := by
  obtain ⟨known, rfl⟩ := Stage.start_eq_ok.mp started
  intro scene ledger played
  refine ⟨?_, ?_, ?_, ?_, ?_⟩
  · intro other
    have opening : scene.state.ledger.visitCount other = if other = knot then 1 else 0 :=
      Ledger.visitCount_recordVisit .empty knot other
    rw [scene.visitCount_run, opening]
  · obtain ⟨records, choices, tell⟩ := scene.choices_run deeds
    have opening : scene.state.ledger.choices.toList = [] := rfl
    rw [choices, opening, List.nil_append]
    exact tell
  · intro each _ divert met unknown
    exact Played.outcome_of_astray met unknown
  · intro each _ left target outcome
    exact Played.astray_of_outcome outcome
  · intro more later
    constructor
    · intro other
      simp [later, ledger, visitCount_run _ more]
    · obtain ⟨records, choices, _⟩ := (scene.run deeds).choices_run more
      simp [later, ledger, choices]

/-- An answer whose divert is lost is recorded, and one that is turned away is not. -/
theorem ledger_exact_behind_lost_divert :
    let stage := Stage.ofKnots [("start", [.choice ⟨none,
      [.full "Again." (some "start") none, .full "Away." (some "nowhere") none]⟩])]
    let scene : Scene := ⟨stage, .opening "start"⟩
    let deeds : List Deed := [.call (.cue .advance), .call (.cue (.commit (.int 1))),
      .call (.cue (.commit (.int 3))), .call (.cue (.commit (.int 2))), .remove "start"]
    let ledger := (scene.run deeds).state.ledger
    stage.start "start" = .ok (.opening "start") ∧
      ledger.visitCount "start" = 2 ∧ ledger.visitCount "nowhere" = 0 ∧
      List.Forall₂ ChoiceRecord.TellsOf ledger.choices.toList
        ((scene.played deeds).filter Played.accepted) ∧
      ledger.choices = #[⟨"start", 1, 1⟩, ⟨"start", 1, 2⟩] := by
  intro stage scene deeds ledger
  have started : stage.start "start" = .ok (.opening "start") := rfl
  obtain ⟨visits, tell, _⟩ := ledger_exact stage "start" _ started deeds
  have entered : (scene.played deeds).flatMap Played.entered = ["start"] := by decide +kernel
  have recorded : ledger.choices = #[⟨"start", 1, 1⟩, ⟨"start", 1, 2⟩] := by decide +kernel
  have visitedStart := visits "start"
  have visitedNowhere := visits "nowhere"
  rw [entered] at visitedStart visitedNowhere
  exact ⟨started, visitedStart, visitedNowhere, tell, recorded⟩

end Scene

end StoryGraph
