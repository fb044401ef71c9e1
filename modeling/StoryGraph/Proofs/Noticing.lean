import StoryGraph.Proofs.Outset

/-!
What a session notes down. Each dispatch notes down at most one thing, and what it is can be read
off the story, the cursor, the variables and whether types are strict. A test is noted behind its
condition, an item that is not understood before the cursor moves on. Then the listener is told,
and only there can a notice make a difference: dispatches that note nothing down are the same for
every listener.

Whatever is recorded is logged and told to the listener as well, in the same order, whether a call
fails or not.
-/

set_option autoImplicit false

namespace StoryGraph

/-- The notice that a line of the log is about. -/
def LogLine.notice? : LogLine → Option Notice
  | .noticed notice => some notice
  | _ => none

def State.logged (state : State) : List Notice := state.log.toList.filterMap LogLine.notice?

/-- What is noted down at a test of a value. -/
def Test.notice? (test : Test) (strictTypes : Bool) (value : Scalar) : Option Notice :=
  match test.operator.resolve with
  | .error unknown => some (.unknownOperator test.name unknown)
  | .ok comparison =>
      match comparison.holds (.scalar value) test.operand with
      | .ok _ => none
      | .error mismatch =>
          if strictTypes then none else some (.typeMismatch test.name mismatch)

def Notice.isUnrecognized : Notice → Bool
  | .unrecognizedItem _ _ => true
  | _ => false

namespace Stage

/-- What is noted down at a dispatch. -/
def noted? (stage : Stage) (state : State) (inline : Option Item) : Option Notice :=
  match (stage.next? state inline).map Item.action with
  | some (.decide test _) => test.notice? stage.settings.strictTypes (state.read test.name)
  | some (.skip kind) => some (.unrecognizedItem kind state.cursor)
  | _ => none

/-- What was recorded between two states was logged too, and told to the listener if there is
one. -/
structure Told (stage : Stage) (before after : State) (told : List Notice) : Prop where
  recorded : after.notices.toList = before.notices.toList ++ told
  logged : after.logged = before.logged ++ told
  heard : stage.listener.isSome → after.heard.toList = before.heard.toList ++ told

end Stage

@[simp] theorem State.logged_writeLog (state : State) (line : LogLine) :
    (state.writeLog line).logged = state.logged ++ line.notice?.toList := by
  simp only [logged, writeLog, Array.toList_push, List.filterMap_append, List.filterMap_cons,
    List.filterMap_nil]
  cases line.notice? <;> rfl

namespace Stage

variable {stage other : Stage} {state before middle after twin : State} {inline : Option Item}
  {notice : Notice} {earlier later : List Notice}

theorem Told.nothing (recorded : after.notices = before.notices)
    (logged : after.logged = before.logged) (heard : after.heard = before.heard) :
    stage.Told before after [] where
  recorded := by rw [recorded, List.append_nil]
  logged := by rw [logged, List.append_nil]
  heard := fun _ => by rw [heard, List.append_nil]

theorem Told.trans (first : stage.Told before middle earlier)
    (second : stage.Told middle after later) : stage.Told before after (earlier ++ later) where
  recorded := by rw [second.recorded, first.recorded, List.append_assoc]
  logged := by rw [second.logged, first.logged, List.append_assoc]
  heard := fun listens => by
    rw [second.heard listens, first.heard listens, List.append_assoc]

theorem Told.unique (first : stage.Told before after earlier)
    (second : stage.Told before after later) : earlier = later :=
  List.append_cancel_left (first.recorded.symm.trans second.recorded)

theorem Told.past (first : stage.Told before after earlier) (inline : Option Item) :
    stage.Told before (past after inline) earlier := by
  cases inline <;> exact ⟨first.recorded, first.logged, first.heard⟩

theorem Told.enter (stage : Stage) (state : State) (target : String) :
    stage.Told state (state.enter target) [] := by
  have logged : (state.enter target).logged = state.logged :=
    (State.logged_writeLog ..).trans (List.append_nil _)
  exact .nothing rfl logged rfl

theorem Told.andThen {α β : Type} {outcome : Outcome α} {next : State → α → Outcome β}
    (first : stage.Told before outcome.1 earlier)
    (silent : ∀ state answer, stage.Told state (next state answer).1 []) :
    stage.Told before (outcome.andThen next).1 earlier := by
  obtain ⟨after, fault | answer⟩ := outcome
  · exact first
  · have whole := first.trans (silent after answer)
    rwa [List.append_nil] at whole

theorem report_told (stage : Stage) (state : State) (notice : Notice) :
    stage.Told state (stage.report state notice).1 [notice] := by
  have logged := state.logged_writeLog (.noticed notice)
  unfold report
  cases listens : stage.listener with
  | none =>
      refine ⟨Array.toList_push .., logged, ?_⟩
      intro listensToo
      rw [listens] at listensToo
      cases listensToo
  | some listener =>
      dsimp only
      split <;> exact ⟨Array.toList_push .., logged, fun _ => Array.toList_push ..⟩

/-- A test is noted down and does not hold, or comes to its verdict. -/
theorem evaluate_eq (stage : Stage) (state : State) (test : Test) :
    stage.evaluate state test =
      match test.notice? stage.settings.strictTypes (state.read test.name) with
      | some notice => (stage.report state notice).andThen fun state _ => (state, .ok false)
      | none => (state, test.verdict stage.settings.strictTypes (state.read test.name)) := by
  unfold evaluate Test.notice? Test.verdict
  cases test.operator.resolve with
  | error unknown => rfl
  | ok comparison =>
      dsimp only
      cases comparison.holds (.scalar (state.read test.name)) test.operand with
      | ok answer => rfl
      | error mismatch => cases stage.settings.strictTypes <;> rfl

theorem evaluate_told (stage : Stage) (state : State) (test : Test) :
    stage.Told state (stage.evaluate state test).1
      (test.notice? stage.settings.strictTypes (state.read test.name)).toList := by
  rw [evaluate_eq]
  cases test.notice? stage.settings.strictTypes (state.read test.name) with
  | none => exact .nothing rfl rfl rfl
  | some notice =>
      apply (stage.report_told state notice).andThen
      exact fun _ _ => .nothing rfl rfl rfl

theorem divertTo_told (stage : Stage) (state : State) (target : String) :
    stage.Told state (stage.divertTo state target).1 [] := by
  cases known : stage.story.contains target with
  | true => simpa [known] using Told.enter stage state target
  | false => simpa [known] using Told.nothing rfl rfl rfl

theorem assign_told (stage : Stage) (state : State) (name : String) (value : Value) :
    stage.Told state (stage.assign state name value).1 [] := by
  obtain ⟨bindings, assigned⟩ := stage.after_assign state name value
  rw [after] at assigned
  rw [assigned]
  exact .nothing rfl rfl rfl

theorem noted?_of_decide {item : Item} {test : Test} {body : Option Item}
    (next : stage.next? state inline = some item) (action : item.action = .decide test body) :
    stage.noted? state inline = test.notice? stage.settings.strictTypes (state.read test.name) := by
  simp only [noted?, next, Option.map_some, action]

theorem noted?_of_skip {item : Item} {kind : String} (next : stage.next? state inline = some item)
    (action : item.action = .skip kind) :
    stage.noted? state inline = some (.unrecognizedItem kind state.cursor) := by
  simp only [noted?, next, Option.map_some, action]

theorem noted?_congr (same : state.SameCourse twin) :
    stage.noted? twin inline = stage.noted? state inline := by
  simp only [noted?, next?, same.cursor, same.read]

theorem step_told (stage : Stage) (state : State) (inline : Option Item) :
    stage.Told state (stage.step state inline).1 (stage.noted? state inline).toList := by
  have stays : stage.Told state state [] := .nothing rfl rfl rfl
  unfold step noted?
  cases stage.next? state inline with
  | none => exact stays
  | some item =>
      simp only [Option.map_some]
      cases item.action with
      | say line => exact stays.past inline
      | ask choice => exact .nothing rfl rfl rfl
      | goTo target =>
          apply (stage.divertTo_told state target).andThen
          exact fun _ _ => .nothing rfl rfl rfl
      | assign name value =>
          apply (stage.assign_told state name value).andThen
          exact fun _ _ => (Told.nothing rfl rfl rfl).past inline
      | decide test body =>
          have told := (stays.past inline).trans (stage.evaluate_told (past state inline) test)
          rw [read_past, List.nil_append] at told
          apply told.andThen
          exact fun _ _ => .nothing rfl rfl rfl
      | skip kind =>
          apply (stage.report_told state (.unrecognizedItem kind state.cursor)).andThen
          exact fun _ _ => (Told.nothing rfl rfl rfl).past inline

theorem Moves.told {moment next : Moment} (moves : stage.Moves moment next) :
    stage.Told moment.state next.state (stage.noted? moment.state moment.inline).toList := by
  have told := stage.step_told moment.state moment.inline
  unfold Moves at moves
  rwa [moves] at told

theorem Halts.told {moment : Moment} {outcome : Outcome Event}
    (halts : stage.Halts moment outcome) :
    stage.Told moment.state outcome.1 (stage.noted? moment.state moment.inline).toList := by
  have told := stage.step_told moment.state moment.inline
  unfold Halts at halts
  rwa [halts] at told

theorem walk_told (stage : Stage) (budget : Nat) (state : State) (inline : Option Item) :
    ∃ told, stage.Told state (stage.walk budget state inline).1 told := by
  induction budget generalizing state inline with
  | zero => exact ⟨[], .nothing rfl rfl rfl⟩
  | succ budget inductionHypothesis =>
      have first := stage.step_told state inline
      rw [walk]
      rcases stepped : stage.step state inline with ⟨after, fault | next⟩ <;> rw [stepped] at first
      · exact ⟨_, first⟩
      · cases next with
        | done event => exact ⟨_, first⟩
        | more inline =>
            obtain ⟨told, rest⟩ := inductionHypothesis after inline
            exact ⟨_, first.trans rest⟩

theorem settle_told (stage : Stage) (state : State) (pending : Pending) (number : Nat)
    (option : ChoiceOption) : stage.Told state (settle state pending number option) [] := by
  unfold settle
  have logged : ∀ moved : State, moved.log = state.log →
      (moved.writeLog (.committed number option.label pending.knot)).logged = state.logged := by
    intro moved sameLog
    rw [State.logged_writeLog, State.logged, sameLog]
    exact List.append_nil _
  split <;> exact .nothing rfl (logged _ rfl) rfl

theorem fulfil_told {answer : Except Fault Unit} {option : ChoiceOption}
    (fulfilled : stage.fulfil state option = (after, answer)) : other.Told state after [] := by
  rcases fulfil_cases fulfilled with ⟨bindings, rfl | ⟨target, _, _, rfl⟩⟩
  · exact .nothing rfl rfl rfl
  · have set : other.Told state { state with bindings } [] := .nothing rfl rfl rfl
    exact set.trans (.enter ..)

/-- Before its walk a call notes nothing down. -/
theorem Outset.nothing_told {cue : Cue} {outset : State} (walks : stage.Outset state cue outset) :
    other.Told state outset [] := by
  cases walks with
  | onward => exact .nothing rfl rfl rfl
  | answered _ _ fulfilled => exact (other.settle_told ..).trans (fulfil_told fulfilled)

/-- A call walks, or it notes nothing down and is the same over every stage with this story. -/
theorem outset_or_still (stage : Stage) (state : State) (cue : Cue) :
    (∃ outset, stage.Outset state cue outset) ∨
      ∀ other : Stage, other.story = stage.story →
        other.play state cue = stage.play state cue ∧
          other.Told state (stage.play state cue).1 [] := by
  cases cue with
  | advance =>
      cases waiting : state.pending with
      | none => exact .inl ⟨state, .onward waiting⟩
      | some pending =>
          right
          intro other _
          simpa [play, waiting] using Told.nothing rfl rfl rfl
  | commit index =>
      cases waiting : state.pending with
      | none =>
          right
          intro other _
          simp only [play, commit, waiting, true_and]
          exact .nothing rfl rfl rfl
      | some pending =>
          cases picked : picked? pending.choice index with
          | none =>
              right
              intro other _
              simp only [play, commit, waiting, picked, true_and]
              exact .nothing rfl rfl rfl
          | some pick =>
              obtain ⟨number, option⟩ := pick
              rcases fulfilled : stage.fulfil (settle state pending number option) option with
                ⟨after, fault | _⟩
              · right
                intro other sameStory
                rw [play, play, commit_of_picked waiting picked, commit_of_picked waiting picked,
                  fulfil_congr sameStory, fulfilled]
                exact ⟨rfl, (other.settle_told ..).trans (fulfil_told fulfilled)⟩
              · left
                exact ⟨after, .answered waiting picked fulfilled⟩

theorem play_told (stage : Stage) (state : State) (cue : Cue) :
    ∃ told, stage.Told state (stage.play state cue).1 told := by
  rcases stage.outset_or_still state cue with ⟨outset, walks⟩ | still
  · obtain ⟨told, walked⟩ := stage.walk_told stage.settings.maxSteps outset none
    rw [walks.play]
    exact ⟨_, walks.nothing_told.trans walked⟩
  · exact ⟨_, (still stage rfl).2⟩

theorem after_told (stage : Stage) (state : State) (call : Call) :
    ∃ told, stage.Told state (stage.after state call) told := by
  cases call with
  | cue cue => exact stage.play_told state cue
  | assign name value => exact ⟨_, stage.assign_told state name value⟩
  | evaluate test => exact ⟨_, stage.evaluate_told state test⟩

/-- Whatever a session has recorded it has logged, and its listener has heard it. -/
theorem Reachable.recorded_told {knot : String} (reached : stage.Reachable knot state) :
    stage.Told (.opening knot) state state.notices.toList := by
  have grown : ∃ told, stage.Told (.opening knot) state told := by
    induction reached with
    | start started =>
        obtain ⟨_, rfl⟩ := start_eq_ok.mp started
        exact ⟨[], .nothing rfl rfl rfl⟩
    | call call _ inductionHypothesis =>
        obtain ⟨earlier, before⟩ := inductionHypothesis
        obtain ⟨later, after⟩ := stage.after_told _ call
        exact ⟨_, before.trans after⟩
  obtain ⟨told, whole⟩ := grown
  have same : state.notices.toList = told := whole.recorded
  rw [same]
  exact whole

theorem step_of_decide {item : Item} {test : Test} {body : Option Item}
    (next : stage.next? state inline = some item) (action : item.action = .decide test body) :
    stage.step state inline = (stage.evaluate (past state inline) test).andThen fun state holds =>
      (state, .ok (.more (if holds then body else none))) := by
  simp only [step, next, action]

theorem step_of_skip {item : Item} {kind : String} (next : stage.next? state inline = some item)
    (action : item.action = .skip kind) :
    stage.step state inline =
      (stage.report state (.unrecognizedItem kind state.cursor)).andThen fun state _ =>
        (past state inline, .ok (.more none)) := by
  simp only [step, next, action]

/-- Only tests and items that are not understood are noted down. -/
theorem noted?_cases (noted : stage.noted? state inline = some notice) :
    (∃ item test body, stage.next? state inline = some item ∧ item.action = .decide test body ∧
      test.notice? stage.settings.strictTypes (state.read test.name) = some notice) ∨
    ∃ item kind, stage.next? state inline = some item ∧ item.action = .skip kind ∧
      notice = .unrecognizedItem kind state.cursor := by
  unfold noted? at noted
  cases next : stage.next? state inline with
  | none =>
      rw [next] at noted
      cases noted
  | some item =>
      rw [next, Option.map_some] at noted
      cases action : item.action with
      | decide test body =>
          rw [action] at noted
          exact .inl ⟨item, test, body, rfl, action, noted⟩
      | skip kind =>
          rw [action] at noted
          cases noted
          exact .inr ⟨item, kind, rfl, action, rfl⟩
      | say | ask | goTo | assign =>
          rw [action] at noted
          cases noted

/-- What is noted down at a dispatch is noted down behind its item, unless that is a bare one that
is not understood, and nothing else is done. -/
theorem step_of_noted (noted : stage.noted? state inline = some notice) :
    (stage.step state inline = (stage.report (past state inline) notice).andThen fun state _ =>
      (state, .ok (.more none))) ∨
    inline = none ∧ ∃ item kind, stage.next? state none = some item ∧ item.action = .skip kind ∧
      notice = .unrecognizedItem kind state.cursor := by
  rcases noted?_cases noted with
    ⟨item, test, body, next, action, tested⟩ | ⟨item, kind, next, action, rfl⟩
  · left
    rw [step_of_decide next action, evaluate_eq, read_past, tested]
    dsimp only
    rcases stage.report (past state inline) notice with ⟨after, fault | _⟩ <;> rfl
  · cases inline with
    | none => exact .inr ⟨rfl, item, kind, next, action, rfl⟩
    | some inner => exact .inl (step_of_skip next action)

/-- A dispatch is the same over two stages with one story if its test and its report are. -/
theorem step_congr (sameStory : other.story = stage.story)
    (tests : ∀ item test body, stage.next? state inline = some item →
      item.action = .decide test body →
        other.evaluate (past state inline) test = stage.evaluate (past state inline) test)
    (reports : ∀ item kind, stage.next? state inline = some item → item.action = .skip kind →
      other.report state (.unrecognizedItem kind state.cursor) =
        stage.report state (.unrecognizedItem kind state.cursor)) :
    other.step state inline = stage.step state inline := by
  unfold step
  have sameNext : other.next? state inline = stage.next? state inline := by
    rw [next?, next?, sameStory]
  rw [sameNext]
  cases next : stage.next? state inline with
  | none => rfl
  | some item =>
      dsimp only
      cases action : item.action with
      | say line => rfl
      | ask choice => rfl
      | goTo target => simp only [divertTo, sameStory]
      | assign name value => rfl
      | decide test body => simp only [tests item test body next action]
      | skip kind => simp only [reports item kind next action]

end Stage

end StoryGraph
