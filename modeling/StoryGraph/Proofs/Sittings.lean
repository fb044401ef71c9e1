import StoryGraph.Terminal.Launch

/-!
A sitting of a player: a session at a terminal with all the lines that will be typed. A turn is one
round of the program's loop: it shows the event that is to be shown, or uses the next line, or the
end of the lines, where a number is asked for. When the session is over nothing happens any more.

A sitting also keeps what went by: what was printed, the events that were taken up, and the lines
that were read, each with the number of options it had to choose from.
-/

set_option autoImplicit false

namespace StoryGraph.Terminal

/-- A line that was read, and how many options it could choose from. -/
structure Reading where
  line : String
  options : Nat

/-- The number of an option, if the line holds one. -/
def Reading.number? (reading : Reading) : Option Nat :=
  match Player.lineNumber? reading.line with
  | some number =>
      if 1 ≤ number ∧ number ≤ reading.options then some number.toNat else none
  | none => none

/-- Lines that choose no option are of no use. -/
def Reading.Useless (options : Nat) (lines : List String) : Prop :=
  ∀ line ∈ lines, (Reading.mk line options).number? = none

/-- The lines that chose an option. -/
def Reading.useful (read : List Reading) : List String :=
  (read.filter fun reading => reading.number?.isSome).map Reading.line

structure Sitting where
  play : Play
  unread : List String
  printed : String
  events : List Event
  read : List Reading

/-- The lines of a sitting without those that chose nothing. -/
def Sitting.useful (sitting : Sitting) : List String :=
  Reading.useful sitting.read ++ sitting.unread

namespace Player

def turn (player : Player) (sitting : Sitting) : Sitting :=
  match sitting.play.phase with
  | .over _ => sitting
  | .showing event =>
      let (text, play) := player.proceed sitting.play
      { sitting with
        play
        printed := sitting.printed ++ text
        events := sitting.events ++ [event] }
  | .asking options =>
      let line := sitting.unread.head?
      let (text, play) := player.answer sitting.play line
      { sitting with
        play
        unread := sitting.unread.tail
        printed := sitting.printed ++ text
        read := sitting.read ++ (line.map fun line => ⟨line, options⟩).toList }

/-- A sitting after so many turns. -/
def sitOn (player : Player) (sitting : Sitting) : Nat → Sitting
  | 0 => sitting
  | turns + 1 => player.turn (player.sitOn sitting turns)

/-- A sitting from the first call of a session, after so many turns. -/
def sit (player : Player) (state : State) (lines : List String) (turns : Nat) : Sitting :=
  player.sitOn ⟨(player.start state).2, lines, (player.start state).1, [], []⟩ turns

end Player

/-- A launch comes back with an exit code when it ends at once, or when its sitting is over. -/
def Launch.Returns (launch : Launch) (lines : List String) (exitCode : Nat) : Prop :=
  match launch.launched with
  | .ended code => code = exitCode
  | .escaped _ => False
  | .playing player play => ∃ turns ending,
      (player.sitOn ⟨play, lines, launch.printed, [], []⟩ turns).play.phase = .over ending ∧
        ending.exitCode? = some exitCode

theorem Reading.number?_eq_some {reading : Reading} {number : Nat} :
    reading.number? = some number ↔
      Player.lineNumber? reading.line = some (number : Int) ∧ 1 ≤ number ∧
        number ≤ reading.options := by
  unfold number?
  cases Player.lineNumber? reading.line with
  | none => simp
  | some value =>
      dsimp only
      split
      · simp only [Option.some.injEq]
        omega
      · simp only [Option.some.injEq]
        constructor
        · nofun
        · rintro ⟨rfl, positive, inRange⟩
          omega

namespace Reading

@[simp] theorem useful_append (first second : List Reading) :
    useful (first ++ second) = useful first ++ useful second := by
  simp [useful]

theorem Useless.useful {options : Nat} {lines : List String} (useless : Useless options lines) :
    Reading.useful (lines.map (Reading.mk · options)) = [] := by
  simp only [Reading.useful, List.map_eq_nil_iff, List.filter_eq_nil_iff, List.mem_map]
  rintro _ ⟨line, read, rfl⟩
  simp [useless line read]

@[simp] theorem useful_of_number {reading : Reading} {number : Nat}
    (serves : reading.number? = some number) : useful [reading] = [reading.line] := by
  simp [useful, serves]

end Reading

namespace Player

variable {player : Player} {line : String} {options number : Nat}

theorem optionOfLine_of_number (serves : (Reading.mk line options).number? = some number) :
    optionOfLine options line = .ok (number : Int) := by
  obtain ⟨value, positive, inRange⟩ := Reading.number?_eq_some.mp serves
  dsimp only at inRange
  simp only [optionOfLine, value]
  exact if_pos (by omega)

/-- A line that chooses nothing is told why. -/
theorem optionOfLine_of_useless (useless : (Reading.mk line options).number? = none) :
    optionOfLine options line = .error (retryText options (lineNumber? line)) := by
  unfold Reading.number? at useless
  unfold optionOfLine
  cases value : lineNumber? line with
  | none => rfl
  | some value =>
      simp only [value] at useless
      split at useless
      · cases useless
      · next outside => exact if_neg outside

section turn

variable {after : State} {unread : List String} {printed debug : String} {events : List Event}
  {read : List Reading}

theorem turn_unprintable {event : Event} (broken : player.debugText after = (debug, false)) :
    player.turn ⟨⟨after, .showing event⟩, unread, printed, events, read⟩ =
      ⟨⟨after, .over .unprintable⟩, unread, printed ++ debug, events ++ [event], read⟩ := by
  simp [turn, proceed, broken]

theorem turn_showing {event : Event} (debugged : player.debugText after = (debug, true)) :
    player.turn ⟨⟨after, .showing event⟩, unread, printed, events, read⟩ =
      let (text, play) := player.present after event
      ⟨play, unread, printed ++ (debug ++ text), events ++ [event], read⟩ := by
  simp [turn, proceed, debugged]

@[simp] theorem turn_left :
    player.turn ⟨⟨after, .asking options⟩, [], printed, events, read⟩ =
      ⟨⟨after, .over .left⟩, [], printed ++ printLine "\nGoodbye!", events, read⟩ := by
  simp [turn, answer]

theorem turn_useless (useless : (Reading.mk line options).number? = none) :
    player.turn ⟨⟨after, .asking options⟩, line :: unread, printed, events, read⟩ =
      ⟨⟨after, .asking options⟩, unread,
        printed ++ (printLine (retryText options (lineNumber? line)) ++ question), events,
        read ++ [⟨line, options⟩]⟩ := by
  simp [turn, answer, optionOfLine_of_useless useless]

theorem turn_number (serves : (Reading.mk line options).number? = some number) :
    player.turn ⟨⟨after, .asking options⟩, line :: unread, printed, events, read⟩ =
      let (text, play) := Play.resume (player.stage.commit after (.int number)) "\n"
      ⟨play, unread, printed ++ text, events, read ++ [⟨line, options⟩]⟩ := by
  simp [turn, answer, optionOfLine_of_number serves]

end turn

section sitOn

variable {sitting other : Sitting} {ending : Ending}

end sitOn

end Player

end StoryGraph.Terminal
