import StoryGraph.Proofs.Calls

/-!
All that can be asked of a session, the calls that play on and the ones that only read, with
what is given back. A row of requests gives a row of responses, each with the state that it
left, failed requests among them. Two sessions that are put the same requests are compared by a
relation of their states.
-/

set_option autoImplicit false

namespace StoryGraph

/-- What can be asked of a session. -/
inductive Request where
  | call (call : Call)
  | read (name : String)
  | visits (knot : String)
  | ended

/-- What a session gives back. -/
inductive Response where
  | event (event : Event)
  | truth (truth : Bool)
  | value (value : Scalar)
  | count (count : Nat)
  | done

/-- Two outcomes with related states and the same answer or fault. -/
structure Outcome.Alike {α : Type} (Related : State → State → Prop) (first second : Outcome α) :
    Prop where
  states : Related first.1 second.1
  answers : second.2 = first.2

namespace Stage

def respond (stage : Stage) (state : State) : Request → Outcome Response
  | .call (.cue cue) => ((stage.play state cue).1, (stage.play state cue).2.map .event)
  | .call (.assign name value) =>
      ((stage.assign state name value).1, (stage.assign state name value).2.map fun _ => .done)
  | .call (.evaluate test) =>
      ((stage.evaluate state test).1, (stage.evaluate state test).2.map .truth)
  | .read name => (state, .ok (.value (state.read name)))
  | .visits knot => (state, .ok (.count (state.ledger.visitCount knot)))
  | .ended => (state, .ok (.truth (stage.hasEnded state)))

/-- The responses to a row of requests, each with the state that it leaves. -/
def responses (stage : Stage) : State → List Request → List (Outcome Response)
  | _, [] => []
  | state, request :: rest =>
      stage.respond state request :: stage.responses (stage.respond state request).1 rest

/-- A request leads where its call leads, or leaves the session where it is. -/
theorem respond_state (stage : Stage) (state : State) (request : Request) :
    (stage.respond state request).1 = state ∨
      ∃ call, (stage.respond state request).1 = stage.after state call := by
  cases request with
  | call call =>
      right
      refine ⟨call, ?_⟩
      cases call <;> rfl
  | read name => exact .inl rfl
  | visits knot => exact .inl rfl
  | ended => exact .inl rfl

end Stage

end StoryGraph
