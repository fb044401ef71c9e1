import StoryGraph.Proofs.Faults
import StoryGraph.Proofs.Influence
import StoryGraph.Proofs.Waiting

/-!
An answer that is accepted is its parts in order. It is noted down first: its record is in the
ledger, nothing waits any more, and the session stands behind the choice. Then the option's errands
are done, one after another: its variables are set, then it diverts if it has a target. Then the
session advances as it does whenever it is told to. An errand that fails ends the answer; those
before it stay done, those behind it are not begun.

The cursor needs a word. An answer moves it only if the choice was bare, while behind a condition
it has moved on already; that both leave it behind the choice is kept by every run, also where the
story changes under it.
-/

set_option autoImplicit false

namespace StoryGraph

/-- A thing that an option asks for. -/
inductive Errand where
  | set (name : String) (value : Value)
  | divert (target : String)

def Errand.ofAssignment (assignment : String × Value) : Errand := .set assignment.1 assignment.2

namespace ChoiceOption

/-- What an option asks for, in order. -/
def errands (option : ChoiceOption) : List Errand :=
  option.assignments.map .ofAssignment ++ option.target.toList.map .divert

/-- The scalar to which an option sets a variable. -/
def scalar? (option : ChoiceOption) (name : String) : Option Scalar :=
  (Table.valueOf? name option.assignments).bind Value.scalar?

theorem assignments_distinct (option : ChoiceOption) :
    (option.assignments.map Prod.fst).Nodup := by
  unfold assignments
  split
  · exact List.nodup_nil
  · exact List.nodup_nil
  · exact Table.distinct _

end ChoiceOption

namespace State

/-- An answer is noted down, and nothing that it asks for is done yet. -/
def noted (state : State) (pending : Pending) (number : Nat) (option : ChoiceOption) : State :=
  { state with
    ledger := state.ledger.recordChoice ⟨pending.knot, pending.position, number⟩
    pending := none
    cursor := ⟨pending.knot, pending.position + 1⟩
    log := state.log.push (.committed number option.label pending.knot) }

/-- The session goes on behind the place of the choice that waits. -/
def GoesOnBehind (state : State) : Prop :=
  ∀ pending, state.pending = some pending →
    pending.behind state.cursor = ⟨pending.knot, pending.position + 1⟩

theorem goesOnBehind_of_idle {state : State} (idle : state.pending = none) :
    state.GoesOnBehind := by
  intro pending waiting
  rw [idle] at waiting
  cases waiting

theorem SamePlace.goesOnBehind {state after : State} (same : state.SamePlace after)
    (behind : state.GoesOnBehind) : after.GoesOnBehind := by
  intro pending waiting
  rw [same.cursor]
  exact behind pending (same.pending.symm.trans waiting)

end State

namespace Stage

/-- Do one errand. A variable is set as by a call that sets it. -/
def carry (stage : Stage) (state : State) : Errand → Outcome Unit
  | .set name value => stage.assign state name value
  | .divert target => stage.divertTo state target

/-- Do errands in order, up to one that fails. -/
def carryAll (stage : Stage) (state : State) : List Errand → Outcome Unit
  | [] => (state, .ok ())
  | errand :: later =>
      (stage.carry state errand).andThen fun state _ => stage.carryAll state later

/-- So many dispatches from a moment on, none sets a variable. -/
def Leaves (stage : Stage) (moment : Moment) (count : Nat) (name : String) : Prop :=
  ∀ earlier middle item value, earlier < count → stage.Goes earlier moment middle →
    stage.next? middle.state middle.inline = some item → item.action ≠ .assign name value

variable {stage : Stage} {state after : State}

theorem settle_eq_noted {pending : Pending} (waiting : state.pending = some pending)
    (behind : state.GoesOnBehind) (number : Nat) (option : ChoiceOption) :
    settle state pending number option = state.noted pending number option := by
  have cursor := behind pending waiting
  unfold Pending.behind at cursor
  simp only [settle, State.noted, State.writeLog]
  split at cursor
  next inline => simp only [if_pos inline, cursor]
  next bare => simp only [if_neg bare, State.moveTo, cursor]

section errands

@[simp] theorem carryAll_append (stage : Stage) (state : State) (first second : List Errand) :
    stage.carryAll state (first ++ second) =
      (stage.carryAll state first).andThen fun state _ => stage.carryAll state second := by
  induction first generalizing state with
  | nil => rfl
  | cons errand later inductionHypothesis =>
      rw [List.cons_append, carryAll, carryAll]
      rcases stage.carry state errand with ⟨middle, fault | _⟩
      · rfl
      · exact inductionHypothesis middle

@[simp] theorem carryAll_assignments (stage : Stage) (state : State)
    (assignments : List (String × Value)) :
    stage.carryAll state (assignments.map .ofAssignment) =
      stage.assignAll state assignments := by
  induction assignments generalizing state with
  | nil => rfl
  | cons assignment rest inductionHypothesis =>
      simp only [List.map_cons, carryAll, assignAll, inductionHypothesis]
      rfl

@[simp] theorem carryAll_target (stage : Stage) (state : State) (target : Option String) :
    stage.carryAll state (target.toList.map .divert) = stage.follow state target := by
  cases target with
  | none => rfl
  | some target =>
      simp only [Option.toList_some, List.map_cons, List.map_nil, carryAll, carry, follow]
      rcases stage.divertTo state target with ⟨middle, fault | _⟩ <;> rfl

theorem fulfil_eq_carryAll (stage : Stage) (state : State) (option : ChoiceOption) :
    stage.fulfil state option = stage.carryAll state option.errands := by
  simp [ChoiceOption.errands, fulfil]

theorem pending_carryAll (stage : Stage) (state : State) (option : ChoiceOption) :
    (stage.carryAll state option.errands).1.pending = state.pending := by
  rw [← fulfil_eq_carryAll]
  rcases fulfilled : stage.fulfil state option with ⟨after, answer⟩
  exact fulfil_pending fulfilled

/-- An errand that fails changes nothing. -/
theorem carry_error {errand : Errand} {fault : Fault}
    (failed : stage.carry state errand = (after, .error fault)) : after = state := by
  cases errand with
  | set name value =>
      rw [carry] at failed
      cases isScalar : value.scalar? with
      | some scalar => simp [isScalar] at failed
      | none =>
          simp [isScalar] at failed
          exact failed.1.symm
  | divert target =>
      rw [carry] at failed
      cases known : stage.story.contains target with
      | true => simp [known] at failed
      | false =>
          simp [known] at failed
          exact failed.1.symm

/-- Errands that fail, fail at one of them: those before it are done, and no later one is begun. -/
theorem carryAll_error {errands : List Errand} {fault : Fault}
    (failed : stage.carryAll state errands = (after, .error fault)) :
    ∃ before errand later, errands = before ++ errand :: later ∧
      stage.carryAll state before = (after, .ok ()) ∧
      stage.carry after errand = (after, .error fault) := by
  induction errands generalizing state with
  | nil => cases failed
  | cons errand later inductionHypothesis =>
      rw [carryAll] at failed
      rcases carried : stage.carry state errand with ⟨middle, other | _⟩
      · rw [carried, Outcome.andThen_error] at failed
        cases failed
        obtain rfl := carry_error carried
        exact ⟨[], errand, later, rfl, rfl, carried⟩
      · rw [carried, Outcome.andThen_ok] at failed
        obtain ⟨before, culprit, behind, rfl, done, failing⟩ := inductionHypothesis failed
        refine ⟨errand :: before, culprit, behind, rfl, ?_, failing⟩
        simp [carryAll, carried, done]

/-- An option whose errands fail has set some of its variables. If its target failed, it has set
all of them. -/
theorem carryAll_errands_error {option : ChoiceOption} {fault : Fault}
    (failed : stage.carryAll state option.errands = (after, .error fault)) :
    ∃ done errand later, option.errands = done.map .ofAssignment ++ errand :: later ∧
      stage.carryAll state (done.map .ofAssignment) = (after, .ok ()) ∧
      stage.carry after errand = (after, .error fault) ∧
      ∀ target, errand = .divert target → done = option.assignments ∧ later = [] := by
  obtain ⟨before, errand, later, split, carried, failing⟩ := carryAll_error failed
  rcases List.append_eq_append_iff.mp split with
    ⟨more, rfl, divert⟩ | ⟨more, assignments, rest⟩
  · -- The target failed, so all variables were set before it.
    have length := congrArg List.length divert
    rw [List.length_map, Option.length_toList, List.length_append, List.length_cons] at length
    obtain ⟨rfl, rfl⟩ : more = [] ∧ later = [] := by
      rw [← List.length_eq_zero_iff, ← List.length_eq_zero_iff]
      split at length <;> omega
    rw [List.append_nil] at carried split
    exact ⟨option.assignments, errand, [], split, carried, failing, fun _ _ => ⟨rfl, rfl⟩⟩
  · obtain ⟨done, undone, apart, rfl, rfl⟩ := List.map_eq_append_iff.mp assignments
    refine ⟨done, errand, later, split, carried, failing, ?_⟩
    rintro target rfl
    cases undone with
    | cons assignment undone => cases rest
    | nil =>
        cases towards : option.target with
        | none =>
            rw [towards] at rest
            cases rest
        | some _ =>
            rw [towards] at rest
            cases rest
            exact ⟨by rw [apart, List.append_nil], rfl⟩

theorem read_of_assignAll {assignments : List (String × Value)}
    (distinct : (assignments.map Prod.fst).Nodup)
    (assigned : stage.assignAll state assignments = (after, .ok ())) (name : String) :
    after.read name =
      ((Table.valueOf? name assignments).bind Value.scalar?).getD (state.read name) := by
  induction assignments generalizing state with
  | nil =>
      cases assigned
      rfl
  | cons assignment rest inductionHypothesis =>
      obtain ⟨key, value⟩ := assignment
      obtain ⟨fresh, distinct⟩ := List.nodup_cons.mp distinct
      rw [assignAll] at assigned
      cases isScalar : value.scalar? with
      | none => simp [isScalar] at assigned
      | some scalar =>
          rw [assign_scalar isScalar, Outcome.andThen_ok] at assigned
          rw [inductionHypothesis distinct assigned, State.read_write, Table.valueOf?]
          by_cases same : key = name
          · subst same
            have missing : Table.valueOf? key rest = none := by
              rw [← Option.not_isSome_iff_eq_none, Table.valueOf?_isSome_iff]
              exact fresh
            simp [missing, isScalar]
          · simp [same, Ne.symm same]

/-- To divert changes no variable. -/
theorem read_follow (stage : Stage) (state : State) (target : Option String) (name : String) :
    (stage.follow state target).1.read name = state.read name := by
  cases target with
  | none => rfl
  | some target =>
      cases known : stage.story.contains target with
      | true =>
          simp [follow, known]
          rfl
      | false => simp [follow, known]

theorem read_of_carryAll {option : ChoiceOption}
    (carried : stage.carryAll state option.errands = (after, .ok ())) (name : String) :
    after.read name = (option.scalar? name).getD (state.read name) := by
  rw [← fulfil_eq_carryAll, fulfil] at carried
  rcases assigned : stage.assignAll state option.assignments with ⟨middle, fault | _⟩
  · rw [assigned, Outcome.andThen_error] at carried
    cases carried
  · rw [assigned, Outcome.andThen_ok] at carried
    have followed := stage.read_follow middle option.target name
    rw [carried] at followed
    exact followed.trans (read_of_assignAll option.assignments_distinct assigned name)

end errands

section walk

/-- The dispatch of a condition goes by a value of the variable that it tests, unless the listener
refuses a notice. -/
def GoesBy (stage : Stage) (moment : Moment) (test : Test) (body : Option Item)
    (value : Scalar) : Prop :=
  (∃ after, stage.step moment.state moment.inline =
    (after, (test.verdict stage.settings.strictTypes value).map fun holds =>
      .more (if holds then body else none))) ∨
  ∃ notice, (stage.step moment.state moment.inline).2 = .error (.refused notice)

theorem goesBy_read {moment : Moment} {item : Item} {test : Test} {body : Option Item}
    (next : stage.next? moment.state moment.inline = some item)
    (action : item.action = .decide test body) :
    stage.GoesBy moment test body (moment.state.read test.name) := by
  have judged := (stage.evaluate_cases (past moment.state moment.inline) test).2
  rw [read_past] at judged
  unfold GoesBy
  rw [step_of_decide next action]
  generalize stage.evaluate (past moment.state moment.inline) test = outcome at judged
  obtain ⟨after, answer⟩ := outcome
  rcases judged with rfl | ⟨notice, _, rfl⟩
  · left
    refine ⟨after, ?_⟩
    cases test.verdict stage.settings.strictTypes (moment.state.read test.name) <;> rfl
  · exact .inr ⟨notice, rfl⟩

/-- Only a dispatch that sets a variable changes what it reads. -/
theorem Moves.read {moment next : Moment} {name : String} (moves : stage.Moves moment next)
    (other : ∀ item value, stage.next? moment.state moment.inline = some item →
      item.action ≠ .assign name value) :
    next.state.read name = moment.state.read name := by
  cases moves.rules with
  | goTo => rfl
  | @assign item written value scalar next action _ =>
      have apart : name ≠ written := by
        rintro rfl
        exact other item value next action
      simp [apart]
  | decide _ _ evaluated => simp [(sameCourse_of_evaluate evaluated).read]
  | skip _ _ reported => simp [(sameCourse_of_report reported).read]

theorem Goes.read {count : Nat} {moment last : Moment} {name : String}
    (goes : stage.Goes count moment last) (leaves : stage.Leaves moment count name) :
    last.state.read name = moment.state.read name := by
  induction goes with
  | start => rfl
  | next moves _ inductionHypothesis =>
      have here := moves.read fun item value => leaves 0 _ item value (Nat.succ_pos _) .start
      rw [← here]
      apply inductionHypothesis
      intro earlier middle item value early goes
      exact leaves (earlier + 1) middle item value (Nat.succ_lt_succ early) (.next moves goes)

end walk

section place

theorem Halts.goesOnBehind {moment : Moment} {outcome : Outcome Event}
    (halts : stage.Halts moment outcome) (idle : moment.state.pending = none)
    (positive : 1 ≤ moment.state.cursor.position) : outcome.1.GoesOnBehind := by
  obtain ⟨state, inline⟩ := moment
  cases halts.rules with
  | ask next action =>
      intro pending waiting
      cases inline with
      | none =>
          cases waiting
          rfl
      | some _ =>
          cases waiting
          dsimp only at positive
          simp only [Pending.behind, present, Option.isSome_some, if_true]
          rw [Nat.sub_add_cancel positive]
  | theEnd => exact State.goesOnBehind_of_idle idle
  | say => exact State.goesOnBehind_of_idle ((pending_past _ _).trans idle)
  | astray => exact State.goesOnBehind_of_idle idle
  | unassignable => exact State.goesOnBehind_of_idle idle
  | undecided _ _ evaluated =>
      have same := (sameCourse_of_evaluate evaluated).pending
      exact State.goesOnBehind_of_idle (same.trans ((pending_past _ _).trans idle))
  | unskipped _ _ reported =>
      exact State.goesOnBehind_of_idle ((sameCourse_of_report reported).pending.trans idle)

theorem walkOn_goesOnBehind (counted : state.Counted) (idle : state.pending = none) :
    (stage.walkOn state).1.GoesOnBehind := by
  have rules := stage.walkOn_rules state
  generalize stage.walkOn state = outcome at rules
  cases rules with
  | ended _ goes halts =>
      exact halts.goesOnBehind (goes.pending.trans idle) (goes.counted counted).position
  | spent goes => exact State.goesOnBehind_of_idle (goes.pending.trans idle)

theorem play_goesOnBehind (counted : state.Counted) (behind : state.GoesOnBehind) (cue : Cue) :
    (stage.play state cue).1.GoesOnBehind := by
  have rules := stage.play_rules state cue
  generalize stage.play state cue = outcome at rules
  cases rules with
  | again => exact behind
  | onward idle => exact walkOn_goesOnBehind counted idle
  | answer commit =>
      cases commit with
      | idle => exact behind
      | refused => exact behind
      | failed _ _ unfulfilled =>
          exact State.goesOnBehind_of_idle (idle_of_fulfil unfulfilled)
      | taken _ _ fulfilled =>
          have idle := idle_of_fulfil fulfilled
          exact walkOn_goesOnBehind (fulfil_counted fulfilled (counted.settle ..)) idle

end place

/-- An answer that is accepted leaves nothing waiting when it fails. -/
theorem idle_of_commit_error {index : Value} {fault : Fault} (accepts : state.Accepts index)
    (failed : (stage.commit state index).2 = .error fault) :
    (stage.commit state index).1.pending = none := by
  have heard : (stage.play state (.commit index)).turnedAway = false :=
    stage.commit_of_accepts accepts
  have asking := play_asking heard
  rw [play] at asking
  generalize stage.commit state index = outcome at failed asking
  obtain ⟨after, _⟩ := outcome
  cases failed
  exact Option.map_eq_none_iff.mp asking

/-- An answer to which an errand puts an end. Nothing but variables has changed since the answer was
noted down, and those are set that stand before the errand: all of them if it is a divert. -/
structure BreaksAnswer (stage : Stage) (noted : State) (option : ChoiceOption)
    (answer : Outcome Event) (after : State) (fault : Fault) : Prop where
  answer : answer = (after, .error fault)
  onlyBindings : after = { noted with bindings := after.bindings }
  errand : ∃ done errand later, option.errands = done.map .ofAssignment ++ errand :: later ∧
    stage.carryAll noted (done.map .ofAssignment) = (after, .ok ()) ∧
    stage.carry after errand = (after, .error fault) ∧
    ∀ target, errand = .divert target → done = option.assignments ∧ later = []

/-- An answer whose errands are done. The advance begins with the option's values, and each test of
a variable goes by its value until an item sets the variable to another one. -/
structure GoesOnWith (stage : Stage) (value : String → Scalar) (answer : Outcome Event)
    (outset : State) : Prop where
  advances : answer = stage.advance outset
  reads : ∀ name, outset.read name = value name
  tests : ∀ count moment test body item, stage.Goes count ⟨outset, none⟩ moment →
    stage.next? moment.state moment.inline = some item → item.action = .decide test body →
      stage.Leaves ⟨outset, none⟩ count test.name →
        stage.GoesBy moment test body (value test.name)

/-- An answer is its parts in order: it is noted down, the option's errands are done, and the
session advances. -/
structure AnswersInParts (stage : Stage) (state noted : State) (option : ChoiceOption)
    (answer : Outcome Event) : Prop where
  parts : answer = (stage.carryAll noted option.errands).andThen fun state _ =>
    stage.advance state
  /-- Whatever fails, the choice does not wait any more. -/
  idle : ∀ fault, answer.2 = .error fault → answer.1.pending = none
  breaks : ∀ after fault, stage.carryAll noted option.errands = (after, .error fault) →
    stage.BreaksAnswer noted option answer after fault
  goesOn : ∀ outset, stage.carryAll noted option.errands = (outset, .ok ()) →
    stage.GoesOnWith (fun name => (option.scalar? name).getD (state.read name)) answer outset

theorem breaksAnswer_of_carryAll {noted : State} {option : ChoiceOption} {fault : Fault}
    (failed : stage.carryAll noted option.errands = (after, .error fault)) :
    stage.BreaksAnswer noted option (after, .error fault) after fault := by
  have errand := carryAll_errands_error failed
  refine ⟨rfl, ?_, errand⟩
  obtain ⟨done, _, _, _, carried, _⟩ := errand
  obtain ⟨bindings, set⟩ := stage.assignAll_bindings noted done
  rw [← carryAll_assignments, carried] at set
  rw [show after = _ from set]

theorem goesOnWith_of_carryAll {noted : State} {option : ChoiceOption}
    (carried : stage.carryAll noted option.errands = (after, .ok ())) :
    stage.GoesOnWith (fun name => (option.scalar? name).getD (noted.read name))
      (stage.advance after) after := by
  have reads := read_of_carryAll carried
  refine ⟨rfl, reads, ?_⟩
  intro count moment test body item goes next action leaves
  rw [← reads test.name, ← goes.read leaves]
  exact goesBy_read next action

end Stage

namespace Scene

theorem run_goesOnBehind {scene : Scene} (counted : scene.state.Counted)
    (behind : scene.state.GoesOnBehind) (deeds : List Deed) :
    (scene.run deeds).state.GoesOnBehind := by
  induction scene, deeds using run_induction with
  | stay scene => exact behind
  | aside scene deed deeds noCue inductionHypothesis =>
      apply inductionHypothesis (after_counted counted deed)
      exact (after_samePlace noCue scene).goesOnBehind behind
  | cue scene cue deeds inductionHypothesis =>
      exact inductionHypothesis (Stage.play_counted counted cue)
        (Stage.play_goesOnBehind counted behind cue)

/-- Behind every run from a start, with failed calls and changes of the story among the deeds, an
answer by the number of an option of the choice that waits is its parts in order. -/
theorem accepted_answer_is_its_parts (stage : Stage) (knot : String) (state : State)
    (started : stage.start knot = .ok state) (deeds : List Deed) :
    let now := (Scene.mk stage state).run deeds
    ∀ pending (number : Nat) option, now.state.pending = some pending → 1 ≤ number →
      pending.choice.options[number - 1]? = some option →
      now.stage.AnswersInParts now.state (now.state.noted pending number option) option
        (now.stage.commit now.state (.int number)) := by
  obtain ⟨_, rfl⟩ := Stage.start_eq_ok.mp started
  intro now pending number option waiting positive present
  have behind : now.state.GoesOnBehind :=
    run_goesOnBehind (State.counted_opening knot) (State.goesOnBehind_of_idle rfl) deeds
  have picked := Stage.picked?_eq_some.mpr ⟨rfl, positive, present⟩
  let noted := now.state.noted pending number option
  have idle : (now.stage.carryAll noted option.errands).1.pending = none :=
    now.stage.pending_carryAll noted option
  have parts : now.stage.commit now.state (.int number) =
      (now.stage.carryAll noted option.errands).andThen fun state _ =>
        now.stage.advance state := by
    rw [Stage.commit_of_picked waiting picked, Stage.settle_eq_noted waiting behind,
      Stage.fulfil_eq_carryAll]
    rcases carried : now.stage.carryAll noted option.errands with ⟨middle, fault | _⟩
    · rfl
    · rw [carried] at idle
      simp [show middle.pending = none from idle]
  refine ⟨parts, ?_, ?_, ?_⟩
  · intro fault failed
    exact Stage.idle_of_commit_error ⟨pending, number, option, waiting, picked⟩ failed
  · intro after fault failed
    rw [parts, failed, Outcome.andThen_error]
    exact Stage.breaksAnswer_of_carryAll failed
  · intro outset carried
    have goesOn := Stage.goesOnWith_of_carryAll carried
    rw [parts, carried, Outcome.andThen_ok]
    exact goesOn

/-- A choice whose knot is gone is answered by an option that sets a variable to a list, and by one
that diverts to a condition on a variable that it sets. -/
theorem accepted_answer_is_its_parts_without_knot :
    let calm : Value := .string "calm"
    let stays : ChoiceOption := .full "Stay." (some "nowhere")
      (some (.ofList [("mood", calm), ("seat", .list []), ("hat", calm)]))
    let climbs : ChoiceOption := .full "Climb." (some "attic") (some (.ofList [("mood", calm)]))
    let choice : Choice := ⟨none, [stays, climbs]⟩
    let test : Test := ⟨"mood", .known .equal, calm⟩
    let stage := Stage.ofKnots [("start", [.unlessSet "mood" (.choice choice)]),
      ("attic", [.condition test (.bare "All is calm.")])]
    let now := (Scene.mk stage (.opening "start")).run [.call (.cue .advance), .remove "start"]
    let pending : Pending := ⟨choice, "start", 1, true⟩
    let stayed := now.stage.commit now.state (.int 1)
    let climbed := now.stage.commit now.state (.int 2)
    stage.start "start" = .ok (.opening "start") ∧ now.state.pending = some pending ∧
      stayed.1 = { now.state.noted pending 1 stays with
        bindings := .ofList [("mood", .string "calm")] } ∧
      stayed.2 = .error (.invalidValue "seat" "list") ∧ stayed.1.pending = none ∧
      (∃ outset, climbed = now.stage.advance outset ∧ outset.read "mood" = .string "calm" ∧
        now.stage.GoesBy ⟨outset, none⟩ test (some (.bare "All is calm.")) (.string "calm")) ∧
      climbed.2 = .ok (.line (.ofBody "All is calm.")) := by
  intro calm stays climbs choice test stage now pending stayed climbed
  have started : stage.start "start" = .ok (.opening "start") := rfl
  have waiting : now.state.pending = some pending := rfl
  have parts := accepted_answer_is_its_parts stage "start" _ started
    [.call (.cue .advance), .remove "start"] pending
  have failing := parts 1 stays waiting (Nat.le_refl 1) rfl
  have broken := failing.breaks _ (.invalidValue "seat" "list") rfl
  have fault : stayed.2 = .error (.invalidValue "seat" "list") := congrArg Prod.snd broken.answer
  have going := (parts 2 climbs waiting (by decide) rfl).goesOn _ rfl
  have judged := going.tests 0 _ test _ _ .start rfl rfl nofun
  refine ⟨started, waiting, ?_, fault, failing.idle _ fault,
    ⟨_, going.advances, going.reads "mood", judged⟩, rfl⟩
  rw [show stayed.1 = _ from congrArg Prod.fst broken.answer]
  rfl

end Scene

end StoryGraph
