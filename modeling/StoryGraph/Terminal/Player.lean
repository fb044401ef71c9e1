import StoryGraph.Session.Basic
import StoryGraph.Terminal.Render

/-!
Playing a story at a terminal. The player shows what the session shows, one
event after another. At a choice it asks for a number until it gets the number
of an option; every line that is read is used up, whether it serves or not.

`proceed` shows one event, `answer` uses one line of input. Between them the
player stands in a phase, so a terminal only has to print what it is given and
to read a line when the player asks.
-/

set_option autoImplicit false

namespace StoryGraph.Terminal

inductive Ending where
  | finished
  | left
  | stopped (fault : Fault)
  /-- Printing broke off at a variable without a text. -/
  | unprintable

inductive Phase where
  | showing (event : Event)
  | asking (options : Nat)
  | over (ending : Ending)

structure Player where
  stage : Stage
  showSpeaker : Bool
  showTags : Bool
  debug : Bool

structure Play where
  state : State
  phase : Phase

abbrev Turn := String × Play

def question : String := "Select an option: "

namespace Play

def stop (state : State) (fault : Fault) : Turn :=
  (printLine s!"\nStory stopped: {fault.message}",
    ⟨state.writeLog .aborted, .over (.stopped fault)⟩)

/-- Go on with what a call of the session gave; after an event, print something first. -/
def resume (outcome : Outcome Event) (printed : String) : Turn :=
  match outcome with
  | (state, .ok event) => (printed, ⟨state, .showing event⟩)
  | (state, .error fault) => stop state fault

end Play

namespace Player

def start (player : Player) (state : State) : Turn :=
  Play.resume (player.stage.advance state) ""

/-- What is printed before an event if debug output is on, and whether it is all. -/
def debugText (player : Player) (state : State) : String × Bool :=
  if player.debug then
    Terminal.debugText state.cursor.knot (state.bindings.map fun _ value => .scalar value)
  else ("", true)

/-- Show an event. After a line the session goes on; at a choice the player is asked. -/
def present (player : Player) (state : State) : Event → Turn
  | .line line =>
      let (printed, play) := Play.resume (player.stage.advance state) ""
      (lineText line player.showSpeaker player.showTags ++ printed, play)
  | .choice prompt labels =>
      if labels.isEmpty then Play.stop state .noOptions
      else (choiceText prompt labels ++ question, ⟨state, .asking labels.length⟩)
  | .theEnd => (heading "THE END", ⟨state, .over .finished⟩)

def proceed (player : Player) (play : Play) : Turn :=
  match play.phase with
  | .showing event =>
      match player.debugText play.state with
      | (debug, false) => (debug, ⟨play.state, .over .unprintable⟩)
      | (debug, true) =>
          let (printed, play) := player.present play.state event
          (debug ++ printed, play)
  | _ => ("", play)

/-- Why a line answers no question. -/
def retryText (options : Nat) : Option Int → String
  | none => "Please enter a number."
  | some _ => s!"Please enter a value between 1 and {options}."

def lineNumber? (line : String) : Option Int := Text.wholeNumber? (Text.trim line.toList)

/-- The number of an option that a line holds, else why it holds none. -/
def optionOfLine (options : Nat) (line : String) : Except String Int :=
  match lineNumber? line with
  | none => .error (retryText options none)
  | some number =>
      if 1 ≤ number ∧ number ≤ options then .ok number
      else .error (retryText options (some number))

/-- Use a line of input, or its end, where an answer is waited for. -/
def answer (player : Player) (play : Play) (line : Option String) : Turn :=
  match play.phase, line with
  | .asking _, none => (printLine "\nGoodbye!", ⟨play.state, .over .left⟩)
  | .asking options, some line =>
      match optionOfLine options line with
      | .error reason => (printLine reason ++ question, play)
      | .ok number => Play.resume (player.stage.commit play.state (.int number)) "\n"
  | _, _ => ("", play)

/-- The lines of a session's log that are told: all of them if debug output is on,
else those of weight. -/
def toldLog (player : Player) (state : State) : List LogLine :=
  state.log.toList.filter fun line => player.debug || line.level = .warning

end Player

def Ending.exitCode? : Ending → Option Nat
  | .finished => some 0
  | .left => some 0
  | .stopped _ => some 1
  | .unprintable => none

end StoryGraph.Terminal
