import StoryGraph.Proofs.Layers
import StoryGraph.Proofs.SideBySide

/-!
What the course of a session depends on: the cursor, the choice that waits and the variables
that conditions of the story test. Two sessions over one story that agree on these go the same
way, whatever other variables hold, whatever was visited, taken or noted down, and whoever
listens. They show the same, fail the same, and agree again after every call.

Variables that no condition tests are written but never read, and counts and records are only
ever added to. A listener that refuses a notice would stop one session and not the other, so
neither has one that does.
-/

set_option autoImplicit false

namespace StoryGraph

/-- Some condition of the story, bare or wrapped, tests the variable. -/
def Story.Tests (story : Story) (name : String) : Prop :=
  ∃ test body, .condition test body ∈ story.layers ∧ test.name = name

/-- Two states that agree on all that the course of a session depends on. -/
structure State.Agrees (story : Story) (state twin : State) : Prop where
  cursor : twin.cursor = state.cursor
  pending : twin.pending = state.pending
  read : ∀ name, story.Tests name → twin.read name = state.read name

/-- The requests that ask for the course of a session: to play on or set a variable, whether
it has ended, and about variables that the story tests. -/
def Request.OfCourse (story : Story) : Request → Prop
  | .call (.cue _) => True
  | .call (.assign _ _) => True
  | .call (.evaluate test) => story.Tests test.name
  | .read name => story.Tests name
  | .visits _ => False
  | .ended => True

namespace State

@[simp] theorem read_write (state : State) (name other : String) (value : Scalar) :
    (state.write name value).read other = if other = name then value else state.read other := by
  unfold read write
  simp only [Table.get?_insert]
  split <;> rfl

namespace Agrees

variable {story : Story} {state twin : State}

theorem of_sameCourse (agrees : state.Agrees story twin) {after twinAfter : State}
    (same : state.SameCourse after) (twinSame : twin.SameCourse twinAfter) :
    after.Agrees story twinAfter where
  cursor := by rw [twinSame.cursor, agrees.cursor, same.cursor]
  pending := by rw [twinSame.pending, agrees.pending, same.pending]
  read := by
    intro name tested
    rw [twinSame.read, agrees.read name tested, same.read]

theorem write (agrees : state.Agrees story twin) (name : String) (value : Scalar) :
    (state.write name value).Agrees story (twin.write name value) where
  cursor := agrees.cursor
  pending := agrees.pending
  read := by
    intro other tested
    simp [agrees.read other tested]

theorem past (agrees : state.Agrees story twin) (inline : Option Item) :
    (Stage.past state inline).Agrees story (Stage.past twin inline) where
  cursor := Stage.cursor_past_congr agrees.cursor
  pending := by simp [agrees.pending]
  read := by
    intro name tested
    simp [agrees.read name tested]

theorem present (agrees : state.Agrees story twin) (inline : Option Item) (choice : Choice) :
    (Stage.present state inline choice).Agrees story (Stage.present twin inline choice) where
  cursor := agrees.cursor
  pending := by simp only [Stage.present, agrees.cursor]
  read := agrees.read

theorem enter (agrees : state.Agrees story twin) (target : String) :
    (state.enter target).Agrees story (twin.enter target) where
  cursor := rfl
  pending := agrees.pending
  read := agrees.read

theorem settle (agrees : state.Agrees story twin) (pending : Pending) (number : Nat)
    (option : ChoiceOption) :
    (Stage.settle state pending number option).Agrees story
      (Stage.settle twin pending number option) where
  cursor := by simp [agrees.cursor]
  pending := by simp
  read := by
    intro name tested
    simp [agrees.read name tested]

end Agrees

end State

/-- What two sessions have in common that agree on all that the course of a session depends on. -/
def Likeness.agreeing (story : Story) : Likeness where
  Related := State.Agrees story
  Reads := story.Tests

namespace Stage

/-- The stage with another listener, or none. -/
def withListener (stage : Stage) (listener : Option Listener) : Stage := { stage with listener }

theorem DispatchesIn.layered {stage : Stage} {state : State} {requests : List Request}
    {moment : Moment} (dispatches : stage.DispatchesIn state requests moment) :
    ∀ inner, moment.inline = some inner → inner ∈ stage.story.layers := by
  induction dispatches with
  | now _ _ goes =>
      exact goes.keeps (fun moment => ∀ inner, moment.inline = some inner →
        inner ∈ stage.story.layers) (fun _ _ => Moves.layered) nofun
  | later _ inductionHypothesis => exact inductionHypothesis

section Agrees

variable {stage : Stage} {listener : Option Listener}

/-- A test that a walk comes to is one of the story. -/
theorem tests_of_next {state : State} {inline : Option Item} {item : Item} {test : Test}
    {body : Option Item} (layered : ∀ inner, inline = some inner → inner ∈ stage.story.layers)
    (next : stage.next? state inline = some item) (action : item.action = .decide test body) :
    stage.story.Tests test.name := by
  have layer := mem_layers_of_next layered next
  obtain ⟨inner, rfl, _⟩ := Item.eq_condition_of_action action
  exact ⟨test, inner, layer, rfl⟩

theorem inStep_agreeing (unopposed : stage.Unopposed)
    (unopposedToo : (stage.withListener listener).Unopposed) :
    (Likeness.agreeing stage.story).InStep stage (stage.withListener listener) fun moment =>
      ∀ inner, moment.inline = some inner → inner ∈ stage.story.layers where
  settings := rfl
  respelled := fun item => .refl item.action
  told := fun _ => trivial
  knows := fun _ => rfl
  weaken := id
  read := fun agrees tested => agrees.read _ tested
  report := fun agrees _ => unopposed.report_matches unopposedToo agrees.of_sameCourse _ _
  write := fun name value agrees => agrees.write name value
  enter := fun agrees _ _ _ => agrees.enter _
  idle := fun agrees idle => agrees.pending.trans idle
  waiting := by
    intro state twin pending agrees waiting
    refine ⟨pending, agrees.pending.trans waiting, .refl _, rfl, ?_⟩
    intro index number option twinOption picked pickedToo
    cases picked.symm.trans pickedToo
    exact ⟨agrees.settle pending number option, fun _ _ => trivial⟩
  cursor := State.Agrees.cursor
  here := fun _ => Option.map_id_apply.symm
  past := by
    intro state twin inline item agrees _ _
    cases inline <;> exact agrees.past _
  asks := by
    intro state twin inline item choice twinChoice agrees _ _ action spelled
    cases action.symm.trans spelled
    cases inline <;> exact agrees.present _ choice
  goesTo := fun _ _ _ _ => trivial
  decides := fun _ layered next action => tests_of_next layered next action

/-- Requests that ask for the course of the session are shared by sessions that agree. -/
theorem shares_of_course {request : Request} (asked : request.OfCourse stage.story) :
    (Likeness.agreeing stage.story).Shares stage (stage.withListener listener) request := by
  cases request with
  | call call =>
      cases call with
      | cue | assign => trivial
      | evaluate test => exact asked
  | read name => exact asked
  | visits knot => cases asked
  | ended =>
      intro state twin agrees
      simp only [hasEnded, agrees.cursor, agrees.pending, withListener]

end Agrees

/-- Let two states agree on the cursor, on the choice that waits and on the variables that
conditions of the story test, and let neither listener refuse anything. Then any row of
requests that ask for the course of the session is answered alike from either, by events and by
faults, and the states agree again behind every one of them. -/
theorem course_follows_tested_variables (stage : Stage) (listener : Option Listener)
    (unopposed : stage.Unopposed) (unopposedToo : (stage.withListener listener).Unopposed)
    (state twin : State) (agrees : state.Agrees stage.story twin) (requests : List Request)
    (asked : ∀ request ∈ requests, request.OfCourse stage.story) :
    List.Forall₂ (Outcome.Alike (State.Agrees stage.story)) (stage.responses state requests)
      ((stage.withListener listener).responses twin requests) := by
  have matched := (inStep_agreeing unopposed unopposedToo).responses_match agrees
    (fun request member => shares_of_course (asked request member))
    (fun _ dispatches => dispatches.layered) id
  exact matched.imp fun _ _ => Outcome.Matches.alike

/-- Another variable, a ledger with more in it and a listener that is told what is skipped make
no difference to a choice behind a test of the mood. -/
theorem course_follows_tested_variables_only :
    let choice : Choice := ⟨none, [.bare "Stay."]⟩
    let stage := ofKnots [("start", [.unrecognized "video" (.dict []),
      .unlessSet "mood" (.choice choice), .bare "Night falls."])]
    let listener : Option Listener := some ⟨fun _ _ => false⟩
    let state : State := .opening "start"
    let twin : State := { state.write "weather" (.string "rain") with
      ledger := (state.ledger.recordVisit "start").recordChoice ⟨"start", 1, 1⟩ }
    let requests : List Request := [.call (.cue .advance), .call (.assign "mood" (.list [])),
      .call (.cue (.commit .nil)), .call (.cue (.commit (.int 1))), .read "mood", .ended]
    stage.Unopposed ∧ (stage.withListener listener).Unopposed ∧
      state.Agrees stage.story twin ∧ twin.read "weather" ≠ state.read "weather" ∧
      (∀ request ∈ requests, request.OfCourse stage.story) ∧
      (stage.responses state requests).map Prod.snd =
        [.ok (.event (.choice none ["Stay."])), .error (.invalidValue "mood" "list"),
          .error (.invalidChoice "None" "start" 1), .ok (.event (.line (.ofBody "Night falls."))),
          .ok (.value .nil), .ok (.truth true)] ∧
      List.Forall₂ (Outcome.Alike (State.Agrees stage.story)) (stage.responses state requests)
        ((stage.withListener listener).responses twin requests) := by
  intro choice stage listener state twin requests
  have unopposed : stage.Unopposed := nofun
  have unopposedToo : (stage.withListener listener).Unopposed := by
    intro installed present
    cases present
    exact fun _ _ => rfl
  have layers : stage.story.layers = [.unrecognized "video" (.dict []),
      .unlessSet "mood" (.choice choice), .choice choice, .bare "Night falls."] := rfl
  have tested : stage.story.Tests "mood" :=
    ⟨_, .choice choice, by rw [layers]; exact List.mem_cons_of_mem _ List.mem_cons_self, rfl⟩
  have agrees : state.Agrees stage.story twin := by
    refine ⟨rfl, rfl, ?_⟩
    rintro name ⟨test, body, layer, rfl⟩
    obtain rfl : test = ⟨"mood", .known .equal, .nil⟩ := by
      simp only [layers, Item.unlessSet, Item.bare, List.mem_cons, List.not_mem_nil, reduceCtorEq,
        Item.condition.injEq, or_false, false_or] at layer
      exact layer.1
    rfl
  have asked : ∀ request ∈ requests, request.OfCourse stage.story := by
    simp [requests, Request.OfCourse, tested]
  refine ⟨unopposed, unopposedToo, agrees, by decide +kernel, asked, rfl, ?_⟩
  exact stage.course_follows_tested_variables listener unopposed unopposedToo state twin agrees
    requests asked

end Stage

end StoryGraph
