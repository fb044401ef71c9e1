import StoryGraph.Proofs.Calls

/-!
Sessions over a story that may change. Between two calls knots may be put into the
story or removed from it, also the one that the session is in and also while a choice
waits. A scene is what the session runs over at a time and where it stands, and a deed
takes one scene to the next. Of a run of deeds `played` keeps the cues, each with the
scene in which it was given; what a run did is read off this list.

An answer that is turned away leaves everything as it was. Every other answer is
accepted, whatever comes of it: `State.Accepts` says when.
-/

set_option autoImplicit false

namespace StoryGraph

/-- What happens to a session: a call, or a change of the story under it. -/
inductive Deed where
  | call (call : Call)
  | put (knot : String) (items : List Item)
  | remove (knot : String)

def Deed.cue? : Deed → Option Cue
  | .call (.cue cue) => some cue
  | _ => none

theorem Deed.eq_of_cue? {deed : Deed} {cue : Cue} (isCue : deed.cue? = some cue) :
    deed = .call (.cue cue) := by
  unfold Deed.cue? at isCue
  split at isCue <;> cases isCue
  rfl

/-- What a session runs over now, and where it stands. -/
structure Scene where
  stage : Stage
  state : State

/-- A cue, and the scene in which it was given. -/
structure Played where
  scene : Scene
  cue : Cue

/-- Two states at one place: they differ at most in variables and in what was noted down
for readers. -/
structure State.SamePlace (before after : State) : Prop where
  cursor : after.cursor = before.cursor
  ledger : after.ledger = before.ledger
  pending : after.pending = before.pending

namespace State.SamePlace

variable {first second third : State}

theorem refl (state : State) : state.SamePlace state := ⟨rfl, rfl, rfl⟩

theorem trans (before : first.SamePlace second) (after : second.SamePlace third) :
    first.SamePlace third where
  cursor := after.cursor.trans before.cursor
  ledger := after.ledger.trans before.ledger
  pending := after.pending.trans before.pending

end State.SamePlace

theorem State.SameCourse.samePlace {before after : State} (same : before.SameCourse after) :
    before.SamePlace after := ⟨same.cursor, same.ledger, same.pending⟩

/-- When an answer is accepted: a choice waits, and it has the option. -/
def State.Accepts (state : State) (index : Value) : Prop :=
  ∃ pending number option, state.pending = some pending ∧
    Stage.picked? pending.choice index = some (number, option)

/-- A call that was turned away. -/
def Outcome.turnedAway {α : Type} : Outcome α → Bool
  | (_, .error fault) => fault.isRejection
  | (_, .ok _) => false

@[simp] theorem Outcome.turnedAway_of_error {α : Type} {outcome : Outcome α} {fault : Fault}
    (failed : outcome.2 = .error fault) : outcome.turnedAway = fault.isRejection := by
  obtain ⟨state, answer⟩ := outcome
  cases failed
  rfl

namespace Played

def outcome (played : Played) : Outcome Event :=
  played.scene.stage.play played.scene.state played.cue

/-- The scene that a cue leads to. -/
def next (played : Played) : Scene := { played.scene with state := played.outcome.1 }

@[simp] theorem state_next (played : Played) : played.next.state = played.outcome.1 := rfl

/-- An answer that was not turned away. -/
def accepted (played : Played) : Bool :=
  match played.cue with
  | .advance => false
  | .commit _ => !played.outcome.turnedAway

end Played

namespace Scene

def after (scene : Scene) : Deed → Scene
  | .call call => { scene with state := scene.stage.after scene.state call }
  | .put knot items =>
      { scene with stage := { scene.stage with story := scene.stage.story.insert knot items } }
  | .remove knot =>
      { scene with stage := { scene.stage with story := scene.stage.story.erase knot } }

/-- The scene behind a row of deeds, failed calls among them. -/
def run (scene : Scene) (deeds : List Deed) : Scene := deeds.foldl after scene

/-- The cues of a row of deeds, in order. -/
def played : Scene → List Deed → List Played
  | _, [] => []
  | scene, deed :: deeds =>
      (deed.cue?.map (Played.mk scene)).toList ++ (scene.after deed).played deeds

@[simp] theorem after_cue (scene : Scene) (cue : Cue) :
    scene.after (.call (.cue cue)) = (Played.mk scene cue).next := rfl

@[simp] theorem run_nil (scene : Scene) : scene.run [] = scene := rfl

@[simp] theorem run_cons (scene : Scene) (deed : Deed) (deeds : List Deed) :
    scene.run (deed :: deeds) = (scene.after deed).run deeds := rfl

@[simp] theorem run_append (scene : Scene) (first second : List Deed) :
    scene.run (first ++ second) = (scene.run first).run second :=
  List.foldl_append

@[simp] theorem played_nil (scene : Scene) : scene.played [] = [] := rfl

@[simp] theorem played_cue (scene : Scene) (cue : Cue) (deeds : List Deed) :
    scene.played (.call (.cue cue) :: deeds) =
      ⟨scene, cue⟩ :: (Played.mk scene cue).next.played deeds := rfl

@[simp] theorem played_of_no_cue {deed : Deed} (noCue : deed.cue? = none) (scene : Scene)
    (deeds : List Deed) : scene.played (deed :: deeds) = (scene.after deed).played deeds := by
  simp [played, noCue]

@[simp] theorem played_append (scene : Scene) (first second : List Deed) :
    scene.played (first ++ second) = scene.played first ++ (scene.run first).played second := by
  induction first generalizing scene with
  | nil => rfl
  | cons deed deeds inductionHypothesis =>
      rw [List.cons_append, played, played, inductionHypothesis, List.append_assoc]
      rfl

/-- A run is nothing, something else than a cue before a run, or a cue before a run. -/
@[elab_as_elim]
theorem run_induction {motive : Scene → List Deed → Prop}
    (stay : ∀ scene, motive scene [])
    (aside : ∀ scene deed deeds, deed.cue? = none → motive (scene.after deed) deeds →
      motive scene (deed :: deeds))
    (cue : ∀ scene cue deeds, motive (Played.mk scene cue).next deeds →
      motive scene (.call (.cue cue) :: deeds))
    (scene : Scene) (deeds : List Deed) : motive scene deeds := by
  induction deeds generalizing scene with
  | nil => exact stay scene
  | cons deed deeds inductionHypothesis =>
      cases isCue : deed.cue? with
      | none => exact aside scene deed deeds isCue (inductionHypothesis _)
      | some given =>
          obtain rfl := Deed.eq_of_cue? isCue
          exact cue scene given deeds (inductionHypothesis _)

/-- Only cues move a session or write to its ledger. -/
theorem after_samePlace {deed : Deed} (noCue : deed.cue? = none) (scene : Scene) :
    scene.state.SamePlace (scene.after deed).state := by
  cases deed with
  | put knot items => exact .refl _
  | remove knot => exact .refl _
  | call call =>
      cases call with
      | cue cue => cases noCue
      | evaluate test => exact (scene.stage.evaluate_cases scene.state test).1.samePlace
      | assign name value =>
          obtain ⟨bindings, assigned⟩ := scene.stage.after_assign scene.state name value
          rw [after, assigned]
          exact ⟨rfl, rfl, rfl⟩

end Scene

namespace Stage

variable {stage : Stage} {state : State} {index : Value}

@[simp] theorem advance_not_turnedAway (stage : Stage) (state : State) :
    (stage.advance state).turnedAway = false := by
  cases waiting : state.pending with
  | some pending => simp [waiting, Outcome.turnedAway]
  | none =>
      simp only [advance_of_idle, waiting]
      rcases walked : stage.walkOn state with ⟨after, fault | event⟩
      · exact walkOn_not_rejection walked
      · rfl

theorem commit_of_not_accepts (stage : Stage) (refused : ¬ state.Accepts index) :
    ∃ fault, fault.isRejection = true ∧ stage.commit state index = (state, .error fault) := by
  have rules := stage.commit_rules state index
  generalize stage.commit state index = outcome at rules
  cases rules with
  | idle => exact ⟨_, rfl, rfl⟩
  | refused => exact ⟨_, refusal_isRejection _ _, rfl⟩
  | failed waiting picked => exact absurd ⟨_, _, _, waiting, picked⟩ refused
  | taken waiting picked => exact absurd ⟨_, _, _, waiting, picked⟩ refused

@[simp] theorem commit_of_accepts (stage : Stage) (accepts : state.Accepts index) :
    (stage.commit state index).turnedAway = false := by
  obtain ⟨pending, number, option, waiting, picked⟩ := accepts
  rw [commit_of_picked waiting picked]
  rcases fulfilled : stage.fulfil (settle state pending number option) option with
    ⟨after, fault | _⟩
  · exact fulfil_not_rejection fulfilled
  · rcases walked : stage.walkOn after with ⟨_, fault | event⟩
    · simp [Outcome.turnedAway, walked, walkOn_not_rejection walked]
    · simp [Outcome.turnedAway, walked]

@[simp] theorem turnedAway_commit_iff (stage : Stage) (state : State) (index : Value) :
    (stage.commit state index).turnedAway = true ↔ ¬ state.Accepts index := by
  constructor
  · intro turned accepts
    rw [stage.commit_of_accepts accepts] at turned
    cases turned
  · intro refused
    obtain ⟨fault, rejection, outcome⟩ := stage.commit_of_not_accepts refused
    rw [outcome]
    exact rejection

/-- What is turned away changes nothing. -/
@[simp] theorem play_of_turnedAway {cue : Cue} (turned : (stage.play state cue).turnedAway = true) :
    (stage.play state cue).1 = state := by
  cases cue with
  | advance =>
      rw [play, advance_not_turnedAway] at turned
      cases turned
  | commit index =>
      rw [play] at turned ⊢
      have refused := (stage.turnedAway_commit_iff state index).mp turned
      obtain ⟨_, _, outcome⟩ := stage.commit_of_not_accepts refused
      rw [outcome]

end Stage

theorem Played.accepted_commit_iff (stage : Stage) (state : State) (index : Value) :
    (Played.mk ⟨stage, state⟩ (.commit index)).accepted = true ↔
      state.Accepts index := by
  by_cases accepts : state.Accepts index
  · simp [accepted, outcome, Stage.play, stage.commit_of_accepts accepts, accepts]
  · have turned := (stage.turnedAway_commit_iff state index).mpr accepts
    simp [accepted, outcome, Stage.play, turned, accepts]

end StoryGraph
