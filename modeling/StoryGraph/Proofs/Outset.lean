import StoryGraph.Proofs.Places
import StoryGraph.Proofs.Requests

/-!
The walk of a call. A call that plays on walks from its outset: from where the session is if no
choice waits, and else from behind the answer, once the option is fulfilled. A call without an
outset shows a choice again, is turned away, or fails at what an option asks for.

A row of requests dispatches at the moments through which the walks of its calls go.
-/

set_option autoImplicit false

namespace StoryGraph.Stage

/-- The state from which a cue walks on. -/
inductive Outset (stage : Stage) (state : State) : Cue → State → Prop where
  | onward (idle : state.pending = none) : Outset stage state .advance state
  | answered {index pending number option after} (waiting : state.pending = some pending)
      (picked : picked? pending.choice index = some (number, option))
      (fulfilled : stage.fulfil (settle state pending number option) option = (after, .ok ())) :
      Outset stage state (.commit index) after

/-- The moments at which the calls among some requests dispatch, put from a state. -/
inductive DispatchesIn (stage : Stage) : State → List Request → Moment → Prop where
  | now {state cue outset rest count moment} (walks : stage.Outset state cue outset)
      (early : count < stage.settings.maxSteps)
      (goes : stage.Goes count ⟨outset, none⟩ moment) :
      DispatchesIn stage state (.call (.cue cue) :: rest) moment
  | later {state request rest moment} :
      DispatchesIn stage (stage.respond state request).1 rest moment →
        DispatchesIn stage state (request :: rest) moment

variable {stage : Stage} {state outset : State} {cue : Cue}

theorem Outset.idle (walks : stage.Outset state cue outset) : outset.pending = none := by
  cases walks with
  | onward idle => exact idle
  | answered _ _ fulfilled => exact idle_of_fulfil fulfilled

theorem Outset.play (walks : stage.Outset state cue outset) :
    stage.play state cue = stage.walkOn outset := by
  cases walks with
  | onward idle => exact advance_of_idle idle
  | answered waiting picked fulfilled =>
      simp [Stage.play, commit_of_picked waiting picked, fulfilled]

theorem fulfil_congr {other : Stage} (sameStory : other.story = stage.story) (state : State)
    (option : ChoiceOption) : other.fulfil state option = stage.fulfil state option := by
  unfold fulfil follow
  rw [stage.assignAll_congr other]
  congr
  funext middle _
  cases option.target with
  | none => rfl
  | some target => simp only [divertTo, sameStory]

/-- Where a call walks from is read off the story and the state. -/
theorem Outset.congr {other : Stage} (walks : stage.Outset state cue outset)
    (sameStory : other.story = stage.story) : other.Outset state cue outset := by
  cases walks with
  | onward idle => exact .onward idle
  | answered waiting picked fulfilled =>
      exact .answered waiting picked ((fulfil_congr sameStory ..).trans fulfilled)

theorem Outset.inPlace (walks : stage.Outset state cue outset)
    (placed : state.InPlace stage.story) : outset.InPlace stage.story := by
  cases walks with
  | onward => exact placed
  | answered waiting picked fulfilled =>
      exact (answered_inPlace placed waiting picked fulfilled).1

theorem respond_inPlace (placed : state.InPlace stage.story) (request : Request) :
    (stage.respond state request).1.InPlace stage.story := by
  rcases stage.respond_state state request with stays | ⟨call, leads⟩
  · rw [stays]
    exact placed
  · rw [leads]
    exact after_inPlace placed call

theorem DispatchesIn.inPlace {requests : List Request} {moment : Moment}
    (dispatches : stage.DispatchesIn state requests moment)
    (placed : state.InPlace stage.story) : moment.InPlace stage.story := by
  induction dispatches with
  | now walks _ goes => exact goes.inPlace ((walks.inPlace placed).outset walks.idle)
  | @later state request _ _ _ inductionHypothesis =>
      exact inductionHypothesis (respond_inPlace placed request)

end StoryGraph.Stage
