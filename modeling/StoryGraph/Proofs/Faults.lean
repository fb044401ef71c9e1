import StoryGraph.Proofs.Noticing
import StoryGraph.Proofs.Scenes

/-!
What can go wrong in a session, whatever its story holds and however the story changes under it.
A walk is stopped by a knot that is missing, a value that is no scalar, a budget that is spent,
under strict types a mismatch, or the listener: `Stops` has a rule for each, with its cause. An
answer can also be turned away. Nothing else goes wrong: an item or an option that is looked up by
its number is there.

A knot may shrink or vanish between two calls, so a session need not stand at real content. What it
keeps is that positions and visits count from one.
-/

set_option autoImplicit false

namespace StoryGraph

/-- What can stop a walk over a stage. -/
inductive Stage.Stops (stage : Stage) : Fault → Prop where
  | unknownDivert {target} (unknown : stage.story.contains target = false) :
      Stops stage (.unknownDivert target)
  | invalidValue {name} {value : Value} (nonScalar : value.scalar? = none) :
      Stops stage (.invalidValue name value.typeName)
  | navigationLoop (place) : Stops stage (.navigationLoop stage.settings.maxSteps place)
  | typeMismatch {name mismatch} (strict : stage.settings.strictTypes = true) :
      Stops stage (.typeMismatch name mismatch)
  | refused {listener heard notice} (listens : stage.listener = some listener)
      (refuses : listener.refuses heard notice = true) : Stops stage (.refused notice)

/-- The faults by which an answer with an index is turned away. -/
inductive Fault.TurnsAway (index : Value) : Fault → Prop where
  | tooEarly : TurnsAway index .noPendingChoice
  | invalid {text knot options} (printable : index.text? = some text) :
      TurnsAway index (.invalidChoice text knot options)
  | unprintable (noText : index.text? = none) : TurnsAway index .unprintableIndex

/-- Positions and visits count from one. -/
structure State.Counted (state : State) : Prop where
  position : 1 ≤ state.cursor.position
  visits : ∀ entry ∈ state.ledger.visits.entries, 1 ≤ entry.2

/-- An outcome that fails failed at its first part or behind it. -/
theorem Outcome.error_of_andThen {α β : Type} {outcome : Outcome α}
    {next : State → α → Outcome β} {after : State} {fault : Fault}
    (failed : outcome.andThen next = (after, .error fault)) :
    outcome = (after, .error fault) ∨
      ∃ middle answer, outcome = (middle, .ok answer) ∧
        next middle answer = (after, .error fault) := by
  obtain ⟨middle, other | answer⟩ := outcome
  · rw [andThen_error] at failed
    cases failed
    exact .inl rfl
  · exact .inr ⟨middle, answer, rfl, failed⟩

namespace State

variable {state after : State}

theorem counted_opening (knot : String) : (State.opening knot).Counted where
  position := Nat.le_refl 1
  visits := by simp [opening, Ledger.recordVisit, Ledger.empty, Table.insert, Table.empty,
    Table.putEntry]

theorem Counted.of_sameCourse (counted : state.Counted) (same : state.SameCourse after) :
    after.Counted where
  position := by rw [same.cursor]; exact counted.position
  visits := by rw [same.ledger]; exact counted.visits

theorem Counted.setBindings (counted : state.Counted) (bindings : Table Scalar) :
    ({ state with bindings } : State).Counted := ⟨counted.position, counted.visits⟩

theorem Counted.enter (counted : state.Counted) (target : String) :
    (state.enter target).Counted where
  position := Nat.le_refl 1
  visits := by
    intro entry visited
    rcases Table.mem_putEntry visited with rfl | earlier
    · exact Nat.le_add_left 1 _
    · exact counted.visits entry earlier

theorem Counted.past (counted : state.Counted) (inline : Option Item) :
    (Stage.past state inline).Counted := by
  cases inline with
  | none => exact ⟨Nat.le_add_left 1 _, counted.visits⟩
  | some _ => exact counted

theorem Counted.settle (counted : state.Counted) (pending : Pending) (number : Nat)
    (option : ChoiceOption) : (Stage.settle state pending number option).Counted where
  position := by
    rw [Stage.settle_cursor, Pending.behind]
    split
    · exact counted.position
    · exact Nat.le_add_left 1 _
  visits := by
    rw [Stage.settle_ledger]
    exact counted.visits

end State

namespace Stage

variable {stage : Stage} {state after : State} {fault : Fault}

theorem stops_of_report {notice : Notice}
    (reported : stage.report state notice = (after, .error fault)) : stage.Stops fault := by
  unfold report at reported
  cases listens : stage.listener with
  | none =>
      rw [listens] at reported
      cases reported
  | some listener =>
      rw [listens] at reported
      dsimp only at reported
      split at reported
      next refuses =>
        cases reported
        exact .refused listens refuses
      next => cases reported

theorem stops_of_evaluate {test : Test}
    (evaluated : stage.evaluate state test = (after, .error fault)) : stage.Stops fault := by
  rw [evaluate_eq] at evaluated
  cases noted : test.notice? stage.settings.strictTypes (state.read test.name) with
  | some notice =>
      rw [noted] at evaluated
      rcases Outcome.error_of_andThen evaluated with reported | ⟨_, _, _, answered⟩
      · exact stops_of_report reported
      · cases answered
  | none =>
      rw [noted] at evaluated
      -- A verdict is a fault under strict types only.
      have judged := congrArg Prod.snd evaluated
      dsimp only at judged
      unfold Test.verdict at judged
      split at judged
      · cases judged
      · split at judged
        · cases judged
        · split at judged
          next strict =>
            cases judged
            exact .typeMismatch strict
          next => cases judged

theorem stops_of_assign {name : String} {value : Value}
    (failed : stage.assign state name value = (after, .error fault)) : stage.Stops fault := by
  cases isScalar : value.scalar? with
  | some scalar => simp [isScalar] at failed
  | none =>
      obtain ⟨_, rfl⟩ : state = after ∧ _ = fault := by simpa [isScalar] using failed
      exact .invalidValue isScalar

theorem Halts.stops {moment : Moment} (halts : stage.Halts moment (after, .error fault)) :
    stage.Stops fault := by
  cases halts.rules with
  | astray _ _ unknown => exact .unknownDivert unknown
  | unassignable _ _ nonScalar => exact .invalidValue nonScalar
  | undecided _ _ evaluated => exact stops_of_evaluate evaluated
  | unskipped _ _ reported => exact stops_of_report reported

theorem stops_of_walkOn (failed : stage.walkOn state = (after, .error fault)) :
    stage.Stops fault := by
  have rules := stage.walkOn_rules state
  rw [failed] at rules
  cases rules with
  | ended _ _ halts => exact halts.stops
  | spent => exact .navigationLoop _

theorem stops_of_assignAll {assignments : List (String × Value)}
    (failed : stage.assignAll state assignments = (after, .error fault)) :
    stage.Stops fault := by
  induction assignments generalizing state with
  | nil => cases failed
  | cons assignment rest inductionHypothesis =>
      rw [assignAll] at failed
      rcases Outcome.error_of_andThen failed with assigned | ⟨_, _, _, later⟩
      · exact stops_of_assign assigned
      · exact inductionHypothesis later

theorem stops_of_divertTo {target : String}
    (failed : stage.divertTo state target = (after, .error fault)) : stage.Stops fault := by
  cases known : stage.story.contains target with
  | true => simp [known] at failed
  | false =>
      obtain ⟨_, rfl⟩ : state = after ∧ _ = fault := by simpa [known] using failed
      exact .unknownDivert known

theorem stops_of_fulfil {option : ChoiceOption}
    (unfulfilled : stage.fulfil state option = (after, .error fault)) : stage.Stops fault := by
  rcases Outcome.error_of_andThen unfulfilled with assigned | ⟨_, _, _, followed⟩
  · exact stops_of_assignAll assigned
  · cases towards : option.target with
    | none =>
        rw [towards] at followed
        cases followed
    | some target =>
        rw [towards] at followed
        exact stops_of_divertTo followed

theorem turnsAway_refusal (pending : Pending) (index : Value) :
    (refusal pending index).TurnsAway index := by
  unfold refusal
  split
  next text printable => exact .invalid printable
  next noText => exact .unprintable noText

/-- An answer that fails is turned away, or it is stopped. -/
theorem stops_or_turnsAway_of_commit {index : Value}
    (failed : (stage.commit state index).2 = .error fault) :
    stage.Stops fault ∨ fault.TurnsAway index := by
  have rules := stage.commit_rules state index
  generalize stage.commit state index = outcome at rules failed
  cases rules with
  | idle =>
      cases failed
      exact .inr .tooEarly
  | @refused pending _ _ =>
      cases failed
      exact .inr (turnsAway_refusal pending index)
  | failed _ _ unfulfilled =>
      cases failed
      exact .inl (stops_of_fulfil unfulfilled)
  | taken => exact .inl (stops_of_walkOn (Prod.ext rfl failed))

theorem stops_of_advance (failed : (stage.advance state).2 = .error fault) :
    stage.Stops fault := by
  cases waiting : state.pending with
  | some pending => simp [waiting] at failed
  | none => exact stops_of_walkOn (Prod.ext rfl (by simpa [waiting] using failed))

theorem fault_of_map {α β : Type} {change : α → β} {answer : Except Fault α}
    (failed : answer.map change = .error fault) : answer = .error fault := by
  cases answer with
  | ok _ => cases failed
  | error other =>
      cases failed
      rfl

/-- A request that fails is stopped, or it is an answer that is turned away. -/
theorem stops_or_turnsAway_of_respond {request : Request}
    (failed : (stage.respond state request).2 = .error fault) :
    stage.Stops fault ∨
      ∃ index, request = .call (.cue (.commit index)) ∧ fault.TurnsAway index := by
  cases request with
  | read => cases failed
  | visits => cases failed
  | ended => cases failed
  | call call =>
      cases call with
      | assign => exact .inl (stops_of_assign (Prod.ext rfl (fault_of_map failed)))
      | evaluate => exact .inl (stops_of_evaluate (Prod.ext rfl (fault_of_map failed)))
      | cue cue =>
          have stopped := fault_of_map failed
          cases cue with
          | advance => exact .inl (stops_of_advance stopped)
          | commit index =>
              rcases stops_or_turnsAway_of_commit stopped with stops | turns
              · exact .inl stops
              · exact .inr ⟨index, rfl, turns⟩

theorem Moves.counted {moment next : Moment} (moves : stage.Moves moment next)
    (counted : moment.state.Counted) : next.state.Counted := by
  cases moves.rules with
  | goTo => exact counted.enter _
  | @assign _ name _ scalar _ _ _ =>
      exact (counted.setBindings (moment.state.bindings.insert name scalar)).past _
  | decide _ _ evaluated => exact (counted.past _).of_sameCourse (sameCourse_of_evaluate evaluated)
  | skip _ _ reported => exact (counted.of_sameCourse (sameCourse_of_report reported)).past _

theorem Halts.counted {moment : Moment} {outcome : Outcome Event}
    (halts : stage.Halts moment outcome) (counted : moment.state.Counted) :
    outcome.1.Counted := by
  cases halts.rules with
  | theEnd => exact counted
  | say => exact counted.past _
  | ask => exact ⟨counted.position, counted.visits⟩
  | astray => exact counted
  | unassignable => exact counted
  | undecided _ _ evaluated =>
      exact (counted.past _).of_sameCourse (sameCourse_of_evaluate evaluated)
  | unskipped _ _ reported => exact counted.of_sameCourse (sameCourse_of_report reported)

theorem Goes.counted {count : Nat} {moment last : Moment} (goes : stage.Goes count moment last)
    (counted : moment.state.Counted) : last.state.Counted :=
  goes.keeps (fun reached => reached.state.Counted) (fun _ _ => Moves.counted) counted

theorem walkOn_counted (counted : state.Counted) : (stage.walkOn state).1.Counted := by
  have rules := stage.walkOn_rules state
  generalize stage.walkOn state = outcome at rules
  cases rules with
  | ended _ goes halts => exact halts.counted (goes.counted counted)
  | spent goes => exact goes.counted counted

theorem fulfil_counted {option : ChoiceOption} {answer : Except Fault Unit}
    (fulfilled : stage.fulfil state option = (after, answer)) (counted : state.Counted) :
    after.Counted := by
  rcases fulfil_cases fulfilled with ⟨bindings, rfl | ⟨target, _, _, rfl⟩⟩
  · exact counted.setBindings bindings
  · exact (counted.setBindings bindings).enter target

theorem Outset.counted {cue : Cue} {outset : State} (walks : stage.Outset state cue outset)
    (counted : state.Counted) : outset.Counted := by
  cases walks with
  | onward => exact counted
  | answered _ _ fulfilled => exact fulfil_counted fulfilled (counted.settle ..)

theorem play_counted (counted : state.Counted) (cue : Cue) :
    (stage.play state cue).1.Counted := by
  have rules := stage.play_rules state cue
  generalize stage.play state cue = outcome at rules
  cases rules with
  | again => exact counted
  | onward => exact walkOn_counted counted
  | answer commit =>
      cases commit with
      | idle => exact counted
      | refused => exact counted
      | failed _ _ unfulfilled => exact fulfil_counted unfulfilled (counted.settle ..)
      | taken _ _ fulfilled => exact walkOn_counted (fulfil_counted fulfilled (counted.settle ..))

theorem after_counted (counted : state.Counted) (call : Call) :
    (stage.after state call).Counted := by
  cases call with
  | cue cue => exact play_counted counted cue
  | assign name value =>
      obtain ⟨bindings, assigned⟩ := stage.after_assign state name value
      rw [assigned]
      exact counted.setBindings bindings
  | evaluate test => exact counted.of_sameCourse (stage.evaluate_cases state test).1

/-- A dispatch between two conditions finds nothing exactly if the session has ended. -/
theorem next?_eq_none_iff_hasEnded (counted : state.Counted) (idle : state.pending = none) :
    stage.next? state none = none ↔ stage.hasEnded state = true := by
  have positive := counted.position
  simp only [next?_bare, Story.itemAt?, hasEnded, idle, Option.isNone_none, Bool.true_and,
    Option.bind_eq_bind]
  cases stage.story.get? state.cursor.knot with
  | none => simp
  | some items =>
      simp only [Option.bind_some, List.getElem?_eq_none_iff, decide_eq_true_eq]
      omega

/-- The number of an option is the number of an option that is there. -/
theorem picked?_of_optionNumber? {choice : Choice} {index : Value} {number : Nat}
    (numbered : optionNumber? choice index = some number) :
    ∃ option, picked? choice index = some (number, option) := by
  have inRange : 1 ≤ number ∧ number ≤ choice.options.length := by
    unfold optionNumber? at numbered
    split at numbered
    · split at numbered
      · cases numbered
        omega
      · cases numbered
    · cases numbered
  have present : number - 1 < choice.options.length := by omega
  exact ⟨choice.options[number - 1], by
    simp [picked?, numbered, List.getElem?_eq_getElem present]⟩

end Stage

namespace Scene

theorem after_counted {scene : Scene} (counted : scene.state.Counted) (deed : Deed) :
    (scene.after deed).state.Counted := by
  cases deed with
  | call call => exact Stage.after_counted counted call
  | put => exact counted
  | remove => exact counted

theorem run_counted {scene : Scene} (counted : scene.state.Counted) (deeds : List Deed) :
    (scene.run deeds).state.Counted := by
  induction deeds generalizing scene with
  | nil => exact counted
  | cons deed deeds inductionHypothesis => exact inductionHypothesis (after_counted counted deed)

/-- Changes of the story are all that changes of a stage. -/
theorem run_stage (scene : Scene) (deeds : List Deed) :
    (scene.run deeds).stage.settings = scene.stage.settings ∧
      (scene.run deeds).stage.listener = scene.stage.listener := by
  induction deeds generalizing scene with
  | nil => exact ⟨rfl, rfl⟩
  | cons deed deeds inductionHypothesis =>
      obtain ⟨settings, listener⟩ := inductionHypothesis (scene.after deed)
      cases deed <;> exact ⟨settings, listener⟩

/-- What can fail on a stage that may have changed its story, and what cannot. -/
structure Closed (now : Scene) (stage : Stage) : Prop where
  /-- A request that fails is stopped or turned away. -/
  faults : ∀ request fault, (now.stage.respond now.state request).2 = .error fault →
    now.stage.Stops fault ∨
      ∃ index, request = .call (.cue (.commit index)) ∧ fault.TurnsAway index
  /-- Requests that only read are answered and leave everything as it is. -/
  reads : ∀ request, (∃ call, request = .call call) ∨
    ∃ response, now.stage.respond now.state request = (now.state, .ok response)
  /-- Each dispatch looks up its item from one on, and finds it unless the session has ended. -/
  lookups : ∀ cue outset count moment, now.stage.Outset now.state cue outset →
    count < now.stage.settings.maxSteps → now.stage.Goes count ⟨outset, none⟩ moment →
      1 ≤ moment.state.cursor.position ∧
        (now.stage.next? moment.state none = none ↔ now.stage.hasEnded moment.state = true)
  /-- An index that numbers an option picks it. -/
  options : ∀ pending index number, now.state.pending = some pending →
    Stage.optionNumber? pending.choice index = some number →
      ∃ option, Stage.picked? pending.choice index = some (number, option)
  settings : now.stage.settings = stage.settings
  listener : now.stage.listener = stage.listener
  position : 1 ≤ now.state.cursor.position
  visits : ∀ entry ∈ now.state.ledger.visits.entries, 1 ≤ entry.2
  scalars : ∀ entry ∈ now.state.bindings.entries,
    ∃ kind, (Value.scalar entry.2).kind? = some kind

/-- Behind every run from a start, with failed calls and changes of the story among the deeds,
faults are confined, and positions and visits count from one. -/
theorem faults_closed (stage : Stage) (knot : String) (state : State)
    (started : stage.start knot = .ok state) (deeds : List Deed) :
    ((Scene.mk stage state).run deeds).Closed stage := by
  obtain ⟨_, rfl⟩ := Stage.start_eq_ok.mp started
  have counted : ((Scene.mk stage (.opening knot)).run deeds).state.Counted :=
    run_counted (State.counted_opening knot) deeds
  obtain ⟨settings, listener⟩ := run_stage ⟨stage, .opening knot⟩ deeds
  exact {
    faults := fun request fault failed => Stage.stops_or_turnsAway_of_respond failed
    reads := by
      intro request
      cases request with
      | call call => exact .inl ⟨call, rfl⟩
      | read => exact .inr ⟨_, rfl⟩
      | visits => exact .inr ⟨_, rfl⟩
      | ended => exact .inr ⟨_, rfl⟩
    lookups := by
      intro cue outset count moment walks _ goes
      have countedThere := goes.counted (walks.counted counted)
      have idle : moment.state.pending = none := goes.pending.trans walks.idle
      exact ⟨countedThere.position, Stage.next?_eq_none_iff_hasEnded countedThere idle⟩
    options := by
      intro pending index number _ numbered
      exact Stage.picked?_of_optionNumber? numbered
    settings, listener
    position := counted.position
    visits := counted.visits
    scalars := fun entry _ => ⟨entry.2.kind, rfl⟩ }

/-- A choice whose knot is gone is answered by an option that sets a variable to a list. -/
theorem faults_closed_without_knot :
    let choice : Choice := ⟨none, [.full "Sit." none (some (.ofList [("seat", .list [])]))]⟩
    let stage : Stage := ⟨.ofList [("start", [.choice choice])], ⟨1, true, by decide⟩, none⟩
    let answer : Request := .call (.cue (.commit (.int 1)))
    let now := (Scene.mk stage (.opening "start")).run [.call (.cue .advance), .remove "start"]
    stage.start "start" = .ok (.opening "start") ∧
      (now.stage.respond now.state answer).2 = .error (.invalidValue "seat" "list") ∧
      now.stage.Stops (.invalidValue "seat" "list") ∧
      (∃ option, Stage.picked? choice (.int 1) = some (1, option)) ∧
      1 ≤ now.state.cursor.position := by
  intro choice stage answer now
  have started : stage.start "start" = .ok (.opening "start") := rfl
  have failed : (now.stage.respond now.state answer).2 = .error (.invalidValue "seat" "list") :=
    rfl
  have closed := faults_closed stage "start" _ started [.call (.cue .advance), .remove "start"]
  have picked := closed.options ⟨choice, "start", 1, false⟩ (.int 1) 1 rfl rfl
  refine ⟨started, failed, ?_, picked, closed.position⟩
  rcases closed.faults answer _ failed with stops | ⟨_, _, turns⟩
  · exact stops
  · cases turns

end Scene

end StoryGraph
