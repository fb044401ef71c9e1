import Mathlib
import StoryGraph.Proofs.Faults
import StoryGraph.Proofs.Sittings
import StoryGraph.Proofs.Waiting

/-!
The player drives a session faithfully. What it is to drive one is said without the player's
phases: advance first and after each line, and at a choice that has options answer it with the
number on the first line that holds one, once the lines before that are read and told why they are
of no use. A session is driven until it fails, comes to its end or to a choice without options, or
the lines run out.

A sitting stands at a drive if it is where the latest call of the drive left it, or has taken up
what that call gave and is on its way to the next one. The sittings that turns lead to are just
those that stand at a drive, so the player makes the calls of the drive and no others.
-/

set_option autoImplicit false

namespace StoryGraph.Terminal

/-- The calls of a session so far with what came of the last one; the lines that are left; and what
was printed, which events were taken up and which lines were read before that call came back. -/
structure Drive where
  cues : List Cue
  outcome : Outcome Event
  unread : List String
  printed : String
  events : List Event
  read : List Reading

/-- What is printed for a choice, with some lines that were read for it and are of no use. -/
def askedText (prompt : Option String) (labels : List String) (useless : List String) : String :=
  choiceText prompt labels ++ question ++ String.join (useless.map fun line =>
    printLine (Player.retryText labels.length (Player.lineNumber? line)) ++ question)

namespace Drive

def first (player : Player) (state : State) (lines : List String) : Drive where
  cues := [.advance]
  outcome := player.stage.advance state
  unread := lines
  printed := ""
  events := []
  read := []

/-- The drive behind a line. -/
def behindLine (drive : Drive) (player : Player) (after : State) (debug : String)
    (line : Line) : Drive where
  cues := drive.cues ++ [.advance]
  outcome := player.stage.advance after
  unread := drive.unread
  printed := drive.printed ++ (debug ++ lineText line player.showSpeaker player.showTags)
  events := drive.events ++ [.line line]
  read := drive.read

/-- The drive behind a choice and a number that answers it. An empty line is printed if the answer
does not fail. -/
def behindAnswer (drive : Drive) (player : Player) (after : State) (debug : String)
    (prompt : Option String) (labels useless : List String) (reply : String) (number : Nat)
    (rest : List String) : Drive where
  cues := drive.cues ++ [.commit (.int number)]
  outcome := player.stage.commit after (.int number)
  unread := rest
  printed := drive.printed ++ (debug ++ askedText prompt labels useless) ++
    if (player.stage.commit after (.int number)).2.isOk then "\n" else ""
  events := drive.events ++ [.choice prompt labels]
  read := drive.read ++ (useless ++ [reply]).map (Reading.mk · labels.length)

/-- A sitting just when the latest call of a drive has come back. -/
def arrival (drive : Drive) : Sitting where
  play := (Play.resume drive.outcome "").2
  unread := drive.unread
  printed := drive.printed ++ (Play.resume drive.outcome "").1
  events := drive.events
  read := drive.read

/-- A sitting at which a number is asked for, behind some lines that are of no use. -/
def asking (drive : Drive) (after : State) (debug : String) (prompt : Option String)
    (labels useless rest : List String) : Sitting where
  play := ⟨after, .asking labels.length⟩
  unread := rest
  printed := drive.printed ++ (debug ++ askedText prompt labels useless)
  events := drive.events ++ [.choice prompt labels]
  read := drive.read ++ useless.map (Reading.mk · labels.length)

/-- A sitting that is over when an event was taken up. -/
def closing (drive : Drive) (event : Event) (play : Play) (text : String) : Sitting where
  play := play
  unread := drive.unread
  printed := drive.printed ++ text
  events := drive.events ++ [event]
  read := drive.read

/-- The session comes to its end, or the lines run out before a choice is answered. -/
def Closes (drive : Drive) : Prop :=
  (∃ after, drive.outcome = (after, .ok .theEnd)) ∨
    ∃ after prompt labels, drive.outcome = (after, .ok (.choice prompt labels)) ∧ labels ≠ [] ∧
      Reading.Useless labels.length drive.unread

end Drive

/-- The calls of a session lead to an outcome, and gave some events before. -/
structure Plays (stage : Stage) (state : State) (cues : List Cue) (events : List Event)
    (outcome : Outcome Event) : Prop where
  leads : (Scene.mk stage state).run (cues.map fun cue => .call (.cue cue)) = ⟨stage, outcome.1⟩
  gives : ((Scene.mk stage state).played (cues.map fun cue => .call (.cue cue))).map
    (fun played => played.outcome.2) = events.map .ok ++ [outcome.2]

theorem Plays.next {stage : Stage} {state after : State} {cues : List Cue} {events : List Event}
    {event : Event} (plays : Plays stage state cues events (after, .ok event)) (cue : Cue) :
    Plays stage state (cues ++ [cue]) (events ++ [event]) (stage.play after cue) where
  leads := by
    simp [plays.leads]
    rfl
  gives := by
    simp [plays.leads, plays.gives]
    rfl

namespace Player

/-- To drive a session from a state with lines to be read. -/
inductive Drives (player : Player) (state : State) (lines : List String) : Drive → Prop where
  | first : Drives player state lines (.first player state lines)
  | line {drive after line debug} (drives : Drives player state lines drive)
      (shown : drive.outcome = (after, .ok (.line line)))
      (debugged : player.debugText after = (debug, true)) :
      Drives player state lines (drive.behindLine player after debug line)
  | answer {drive after prompt labels debug useless reply number rest}
      (drives : Drives player state lines drive)
      (shown : drive.outcome = (after, .ok (.choice prompt labels)))
      (debugged : player.debugText after = (debug, true))
      (unread : drive.unread = useless ++ reply :: rest)
      (noUse : Reading.Useless labels.length useless)
      (serves : (Reading.mk reply labels.length).number? = some number) :
      Drives player state lines
        (drive.behindAnswer player after debug prompt labels useless reply number rest)

/-- The ways a sitting ends as an event is taken up, and what is printed then. -/
inductive Finishes (player : Player) (after : State) : Event → Play → String → Prop where
  | theEnd {debug} (debugged : player.debugText after = (debug, true)) :
      Finishes player after .theEnd ⟨after, .over .finished⟩ (debug ++ heading "THE END")
  | optionless {prompt debug} (debugged : player.debugText after = (debug, true)) :
      Finishes player after (.choice prompt []) (Play.stop after .noOptions).2
        (debug ++ (Play.stop after .noOptions).1)
  /-- Debug output is on and breaks off at a variable without a text. -/
  | unprintable {event debug} (broken : player.debugText after = (debug, false)) :
      Finishes player after event ⟨after, .over .unprintable⟩ debug

/-- A sitting that is where a drive is, or on the way to its next call. -/
inductive Stands (player : Player) (drive : Drive) : Sitting → Prop where
  | arrived : Stands player drive drive.arrival
  | asking {after prompt labels debug useless rest}
      (shown : drive.outcome = (after, .ok (.choice prompt labels)))
      (debugged : player.debugText after = (debug, true)) (options : labels ≠ [])
      (unread : drive.unread = useless ++ rest) (noUse : Reading.Useless labels.length useless) :
      Stands player drive (drive.asking after debug prompt labels useless rest)
  | left {after prompt labels debug} (shown : drive.outcome = (after, .ok (.choice prompt labels)))
      (debugged : player.debugText after = (debug, true)) (options : labels ≠ [])
      (noUse : Reading.Useless labels.length drive.unread) :
      Stands player drive
        { drive.asking after debug prompt labels drive.unread [] with
          play := ⟨after, .over .left⟩
          printed := drive.printed ++ (debug ++ askedText prompt labels drive.unread) ++
            printLine "\nGoodbye!" }
  | finished {after event play text} (shown : drive.outcome = (after, .ok event))
      (finishes : player.Finishes after event play text) :
      Stands player drive (drive.closing event play text)

variable {player : Player} {state : State} {lines : List String} {drive : Drive}
  {sitting : Sitting}

section turn

variable {after : State} {prompt : Option String} {labels useless rest : List String}
  {debug : String}

theorem resume_eq (outcome : Outcome Event) (text : String) :
    Play.resume outcome text =
      ((if outcome.2.isOk then text else "") ++ (Play.resume outcome "").1,
        (Play.resume outcome "").2) := by
  obtain ⟨after, fault | event⟩ := outcome
  · simp [Play.resume, Except.isOk, Except.toBool]
  · simp [Play.resume, Except.isOk, Except.toBool]

@[simp] theorem arrival_of_ok {event : Event} (shown : drive.outcome = (after, .ok event)) :
    drive.arrival =
      ⟨⟨after, .showing event⟩, drive.unread, drive.printed, drive.events, drive.read⟩ := by
  simp [Drive.arrival, shown, Play.resume]

theorem arrival_over {fault : Fault} (failed : drive.outcome = (after, .error fault)) :
    drive.arrival.play.phase = .over (.stopped fault) := by
  simp [Drive.arrival, failed, Play.resume, Play.stop]

theorem Finishes.phase {event : Event} {play : Play} {text : String}
    (finishes : player.Finishes after event play text) :
    ∃ ending, play.phase = .over ending := by
  cases finishes <;> exact ⟨_, rfl⟩

theorem turn_arrival_finished {event : Event} {play : Play} {text : String}
    (shown : drive.outcome = (after, .ok event))
    (finishes : player.Finishes after event play text) :
    player.turn drive.arrival = drive.closing event play text := by
  rw [arrival_of_ok shown]
  cases finishes with
  | theEnd debugged =>
      rw [turn_showing debugged]
      rfl
  | optionless debugged =>
      rw [turn_showing debugged]
      rfl
  | unprintable broken =>
      rw [turn_unprintable broken]
      rfl

theorem turn_arrival_line {line : Line} (shown : drive.outcome = (after, .ok (.line line)))
    (debugged : player.debugText after = (debug, true)) :
    player.turn drive.arrival = (drive.behindLine player after debug line).arrival := by
  rw [arrival_of_ok shown, turn_showing debugged]
  simp [present, Drive.behindLine, Drive.arrival, String.append_assoc]

theorem turn_arrival_choice (shown : drive.outcome = (after, .ok (.choice prompt labels)))
    (debugged : player.debugText after = (debug, true)) (options : labels ≠ []) :
    player.turn drive.arrival = drive.asking after debug prompt labels [] drive.unread := by
  rw [arrival_of_ok shown, turn_showing debugged]
  simp [present, options, Drive.asking, askedText]

theorem turn_asking_useless {line : String}
    (noUse : (Reading.mk line labels.length).number? = none) :
    player.turn (drive.asking after debug prompt labels useless (line :: rest)) =
      drive.asking after debug prompt labels (useless ++ [line]) rest := by
  rw [Drive.asking, turn_useless noUse]
  simp [Drive.asking, askedText, String.append_assoc]

theorem turn_asking_number {reply : String} {number : Nat}
    (serves : (Reading.mk reply labels.length).number? = some number) :
    player.turn (drive.asking after debug prompt labels useless (reply :: rest)) =
      (drive.behindAnswer player after debug prompt labels useless reply number rest).arrival := by
  rw [Drive.asking, turn_number serves, resume_eq]
  simp [Drive.behindAnswer, Drive.arrival, String.append_assoc]

@[simp] theorem turn_asking_left :
    player.turn (drive.asking after debug prompt labels useless []) =
      { drive.asking after debug prompt labels useless [] with
        play := ⟨after, .over .left⟩
        printed := drive.printed ++ (debug ++ askedText prompt labels useless) ++
          printLine "\nGoodbye!" } := by
  simp [Drive.asking]

end turn

@[simp] theorem sit_zero (player : Player) (state : State) (lines : List String) :
    player.sit state lines 0 = (Drive.first player state lines).arrival := by
  simp [sit, sitOn, start, Drive.first, Drive.arrival]

/-- A sitting that is reached by turns. -/
def Reaches (player : Player) (state : State) (lines : List String) (sitting : Sitting) : Prop :=
  ∃ turns, player.sit state lines turns = sitting

theorem Reaches.turn (reaches : player.Reaches state lines sitting) :
    player.Reaches state lines (player.turn sitting) := by
  obtain ⟨turns, rfl⟩ := reaches
  exact ⟨turns + 1, rfl⟩

/-- Turns lead past lines that are of no use. -/
theorem reaches_asking {after : State} {prompt : Option String} {labels useless rest : List String}
    {debug : String} (reaches : player.Reaches state lines drive.arrival)
    (shown : drive.outcome = (after, .ok (.choice prompt labels)))
    (debugged : player.debugText after = (debug, true)) (options : labels ≠ [])
    (unread : drive.unread = useless ++ rest) (noUse : Reading.Useless labels.length useless) :
    player.Reaches state lines (drive.asking after debug prompt labels useless rest) := by
  induction useless using List.reverseRecOn generalizing rest with
  | nil =>
      have asked := reaches.turn
      rw [turn_arrival_choice shown debugged options, unread] at asked
      exact asked
  | append_singleton useless line inductionHypothesis =>
      rw [List.append_assoc, List.singleton_append] at unread
      have before := inductionHypothesis unread fun other earlier =>
        noUse other (List.mem_append_left _ earlier)
      have asked := before.turn
      rw [turn_asking_useless (noUse line (List.mem_append_right _ List.mem_cons_self))] at asked
      exact asked

theorem labels_ne_nil {labels : List String} {reply : String} {number : Nat}
    (serves : (Reading.mk reply labels.length).number? = some number) : labels ≠ [] := by
  rintro rfl
  obtain ⟨_, positive, inRange⟩ := Reading.number?_eq_some.mp serves
  exact absurd (Nat.le_trans positive inRange) (Nat.not_succ_le_zero 0)

theorem Drives.reaches (drives : player.Drives state lines drive) :
    player.Reaches state lines drive.arrival := by
  induction drives with
  | first => exact ⟨0, player.sit_zero state lines⟩
  | line _ shown debugged inductionHypothesis =>
      rw [← turn_arrival_line shown debugged]
      exact inductionHypothesis.turn
  | answer _ shown debugged unread noUse serves inductionHypothesis =>
      rw [← turn_asking_number serves]
      have asked := reaches_asking inductionHypothesis shown debugged (labels_ne_nil serves)
        unread noUse
      exact asked.turn

/-- Turns lead to every sitting that stands at a drive. -/
theorem Stands.reaches (stands : player.Stands drive sitting)
    (drives : player.Drives state lines drive) : player.Reaches state lines sitting := by
  have reaches := drives.reaches
  cases stands with
  | arrived => exact reaches
  | asking shown debugged options unread noUse =>
      exact reaches_asking reaches shown debugged options unread noUse
  | left shown debugged options noUse =>
      rw [← turn_asking_left]
      have asked := reaches_asking reaches shown debugged options (List.append_nil _).symm noUse
      exact asked.turn
  | finished shown finishes =>
      rw [← turn_arrival_finished shown finishes]
      exact reaches.turn

section calls

/-- The calls of a drive lead to where it is. -/
theorem Drives.plays (drives : player.Drives state lines drive) :
    Plays player.stage state drive.cues drive.events drive.outcome := by
  induction drives with
  | first => exact ⟨rfl, rfl⟩
  | line _ shown _ inductionHypothesis =>
      rw [shown] at inductionHypothesis
      exact inductionHypothesis.next .advance
  | @answer _ _ _ _ _ _ _ number _ _ shown _ _ _ _ inductionHypothesis =>
      rw [shown] at inductionHypothesis
      exact inductionHypothesis.next (.commit (.int number))

/-- Where a session asks, the choice that waits is the one that was shown. -/
theorem pending_of_asked {after : State} {prompt : Option String} {labels : List String}
    (asks : after.asking = some (.choice prompt labels)) :
    ∃ pending, after.pending = some pending ∧ pending.choice.labels = labels := by
  obtain ⟨pending, waiting, shown⟩ := Option.map_eq_some_iff.mp asks
  cases shown
  exact ⟨pending, waiting, rfl⟩

theorem accepts_of_asked {after : State} {prompt : Option String} {labels : List String}
    {number : Nat} (asks : after.asking = some (.choice prompt labels)) (positive : 1 ≤ number)
    (inRange : number ≤ labels.length) : after.Accepts (.int number) := by
  obtain ⟨pending, waiting, rfl⟩ := pending_of_asked asks
  rw [Stage.accepts_iff_numbers waiting]
  rw [Choice.labels, List.length_map] at inRange
  exact ⟨number, rfl, positive, inRange⟩

/-- No call of a drive is turned away, and what waits behind it is what it asked. -/
theorem Drives.heard (drives : player.Drives state lines drive) :
    drive.outcome.turnedAway = false ∧ drive.outcome.1.asking = drive.outcome.asked := by
  induction drives with
  | first =>
      have heard : (player.stage.play state .advance).turnedAway = false :=
        player.stage.advance_not_turnedAway state
      exact ⟨heard, Stage.play_asking heard⟩
  | @line drive after line debug _ _ _ _ =>
      have heard : (player.stage.play after .advance).turnedAway = false :=
        player.stage.advance_not_turnedAway after
      exact ⟨heard, Stage.play_asking heard⟩
  | @answer drive after prompt labels debug useless reply number rest _ shown _ _ _ serves
      inductionHypothesis =>
      obtain ⟨_, positive, inRange⟩ := Reading.number?_eq_some.mp serves
      obtain ⟨_, asks⟩ := inductionHypothesis
      rw [shown] at asks
      have heard : (player.stage.play after (.commit (.int number))).turnedAway = false :=
        player.stage.commit_of_accepts (accepts_of_asked asks positive inRange)
      exact ⟨heard, Stage.play_asking heard⟩

@[simp] theorem numbered_getElem? (start place : Nat) (labels : List String) :
    (numbered start labels)[place]? =
      labels[place]?.map fun label => s!"{start + place}. {label}" := by
  induction labels generalizing start place with
  | nil => rfl
  | cons label rest inductionHypothesis =>
      cases place with
      | zero => rfl
      | succ place =>
          simp only [numbered, List.getElem?_cons_succ, inductionHypothesis]
          rw [Nat.add_assoc, Nat.add_comm 1 place]

/-- The label that is printed with a number is the label of the option that the number picks. -/
theorem Drives.picks (drives : player.Drives state lines drive) {after : State}
    {prompt : Option String} {labels : List String} {number : Nat}
    (shown : drive.outcome = (after, .ok (.choice prompt labels))) (positive : 1 ≤ number)
    (inRange : number ≤ labels.length) :
    ∃ pending option, after.pending = some pending ∧
      Stage.picked? pending.choice (.int number) = some (number, option) ∧
        (numbered 1 labels)[number - 1]? = some s!"{number}. {option.label}" := by
  obtain ⟨_, asks⟩ := drives.heard
  rw [shown] at asks
  obtain ⟨pending, waiting, rfl⟩ := pending_of_asked asks
  rw [Choice.labels, List.length_map] at inRange
  have present := List.getElem?_eq_getElem (Nat.sub_one_lt_of_le positive inRange)
  refine ⟨pending, _, waiting, Stage.picked?_eq_some.mpr ⟨rfl, positive, present⟩, ?_⟩
  rw [numbered_getElem?, Choice.labels, List.getElem?_map, present, Option.map_some,
    Option.map_some, Nat.add_sub_cancel' positive]

/-- A call of a drive that fails is stopped. -/
theorem Drives.stops (drives : player.Drives state lines drive) {fault : Fault}
    (failed : drive.outcome.2 = .error fault) : player.stage.Stops fault := by
  have heard := drives.heard.1
  cases drives with
  | first => exact Stage.stops_of_advance failed
  | line => exact Stage.stops_of_advance failed
  | answer =>
      rcases Stage.stops_or_turnsAway_of_commit failed with stops | turns
      · exact stops
      · rw [Outcome.turnedAway_of_error failed] at heard
        cases turns <;> cases heard

/-- A sitting is stopped by a call, or at a choice without options before a line is read for it. -/
theorem Stands.stopped (stands : player.Stands drive sitting)
    (drives : player.Drives state lines drive) {fault : Fault}
    (ended : sitting.play.phase = .over (.stopped fault)) :
    player.stage.Stops fault ∨
      fault = .noOptions ∧ sitting.unread = drive.unread ∧ sitting.read = drive.read ∧
        ∃ after prompt, drive.outcome = (after, .ok (.choice prompt [])) := by
  cases stands with
  | arrived =>
      rcases outcome : drive.outcome with ⟨after, other | event⟩
      · rw [arrival_over outcome] at ended
        cases ended
        exact .inl (drives.stops (congrArg Prod.snd outcome))
      · rw [arrival_of_ok outcome] at ended
        cases ended
  | asking => cases ended
  | left => cases ended
  | finished shown finishes =>
      cases finishes with
      | theEnd => cases ended
      | unprintable => cases ended
      | optionless =>
          cases ended
          exact .inr ⟨rfl, rfl, rfl, _, _, shown⟩

end calls

section useful

/-- Without the lines that chose nothing a drive makes the same calls, and it does so whatever
lines are left. -/
theorem Drives.useful (drives : player.Drives state lines drive) (more : List String) :
    ∃ twin, player.Drives state (Reading.useful drive.read ++ more) twin ∧
      twin.cues = drive.cues ∧ twin.outcome = drive.outcome ∧ twin.events = drive.events ∧
        twin.unread = more := by
  induction drives generalizing more with
  | first => exact ⟨_, .first, rfl, rfl, rfl, rfl⟩
  | line _ shown debugged inductionHypothesis =>
      obtain ⟨twin, drives, cues, outcome, events, rfl⟩ := inductionHypothesis more
      refine ⟨_, drives.line (outcome.trans shown) debugged, ?_, rfl, ?_, rfl⟩
      · simp only [Drive.behindLine, cues]
      · simp only [Drive.behindLine, events]
  | @answer drive after prompt labels debug useless reply number rest _ shown debugged _ noUse
      serves inductionHypothesis =>
      have read : Reading.useful (drive.read ++
          (useless ++ [reply]).map (Reading.mk · labels.length)) ++ more =
            Reading.useful drive.read ++ reply :: more := by
        rw [List.map_append, List.map_singleton, Reading.useful_append, Reading.useful_append,
          noUse.useful, Reading.useful_of_number serves, List.nil_append, List.append_assoc]
        rfl
      obtain ⟨twin, drives, cues, outcome, events, unread⟩ := inductionHypothesis (reply :: more)
      rw [← read] at drives
      let next := twin.behindAnswer player after debug prompt labels [] reply number more
      have answered : player.Drives state _ next :=
        drives.answer (outcome.trans shown) debugged unread nofun serves
      refine ⟨next, answered, ?_, rfl, ?_, rfl⟩
      · simp only [next, Drive.behindAnswer, cues]
      · simp only [next, Drive.behindAnswer, events]

theorem useful_asking (drive : Drive) (after : State) (debug : String) (prompt : Option String)
    {labels useless : List String} (noUse : Reading.Useless labels.length useless)
    (rest : List String) :
    (drive.asking after debug prompt labels useless rest).useful =
      Reading.useful drive.read ++ rest := by
  simp [Sitting.useful, Drive.asking, noUse.useful]

/-- Without the lines that chose nothing a sitting comes to the same. -/
theorem Stands.useful (stands : player.Stands drive sitting)
    (drives : player.Drives state lines drive) :
    ∃ twin, player.Reaches state sitting.useful twin ∧ twin.play = sitting.play ∧
      twin.unread = sitting.unread ∧ twin.events = sitting.events := by
  cases stands with
  | arrived =>
      obtain ⟨twin, drives, _, outcome, events, unread⟩ := drives.useful drive.unread
      refine ⟨twin.arrival, drives.reaches, ?_, unread, events⟩
      simp only [Drive.arrival, outcome]
  | @asking after prompt labels debug useless rest shown debugged options _ noUse =>
      obtain ⟨twin, drives, _, outcome, events, unread⟩ := drives.useful rest
      have stands : player.Stands twin (twin.asking after debug prompt labels [] rest) :=
        .asking (outcome.trans shown) debugged options unread nofun
      rw [← useful_asking drive after debug prompt noUse] at drives
      refine ⟨_, stands.reaches drives, rfl, rfl, ?_⟩
      simp only [Drive.asking, events]
  | @left after prompt labels debug shown debugged options noUse =>
      obtain ⟨twin, drives, _, outcome, events, unread⟩ := drives.useful []
      have stands := Stands.left (outcome.trans shown) debugged options (unread ▸ nofun)
      rw [← useful_asking drive after debug prompt noUse] at drives
      refine ⟨_, stands.reaches drives, rfl, rfl, ?_⟩
      simp only [Drive.asking, events]
  | finished shown finishes =>
      obtain ⟨twin, drives, _, outcome, events, unread⟩ := drives.useful drive.unread
      have stands := Stands.finished (outcome.trans shown) finishes
      refine ⟨_, stands.reaches drives, rfl, unread, ?_⟩
      simp only [Drive.closing, events]

end useful

section closing

/-- A drive that closes leads to a sitting that is over and was not stopped. -/
theorem Drives.closing (drives : player.Drives state lines drive) (closes : drive.Closes) :
    ∃ turns ending, (player.sit state lines turns).play.phase = .over ending ∧
      ∀ fault, ending ≠ .stopped fault := by
  have stand : ∃ sitting ending, player.Stands drive sitting ∧
      sitting.play.phase = .over ending ∧ ∀ fault, ending ≠ .stopped fault := by
    rcases closes with ⟨after, shown⟩ | ⟨after, prompt, labels, shown, options, noUse⟩
    · rcases debugged : player.debugText after with ⟨debug, _ | _⟩
      · exact ⟨_, _, .finished shown (.unprintable debugged), rfl, nofun⟩
      · exact ⟨_, _, .finished shown (.theEnd debugged), rfl, nofun⟩
    · rcases debugged : player.debugText after with ⟨debug, _ | _⟩
      · exact ⟨_, _, .finished shown (.unprintable debugged), rfl, nofun⟩
      · exact ⟨_, _, .left shown debugged options noUse, rfl, nofun⟩
  obtain ⟨sitting, ending, stands, ended, unstopped⟩ := stand
  obtain ⟨turns, rfl⟩ := stands.reaches drives
  exact ⟨turns, ending, ended, unstopped⟩

/-- A sitting that is over without a fault stands at a drive that closes. -/
theorem Stands.closes (stands : player.Stands drive sitting) {ending : Ending}
    (ended : sitting.play.phase = .over ending) (zero : ending.exitCode? = some 0) :
    drive.Closes := by
  cases stands with
  | arrived =>
      rcases outcome : drive.outcome with ⟨after, fault | event⟩
      · rw [arrival_over outcome] at ended
        cases ended
        cases zero
      · rw [arrival_of_ok outcome] at ended
        cases ended
  | asking => cases ended
  | left shown _ options noUse => exact .inr ⟨_, _, _, shown, options, noUse⟩
  | finished shown finishes =>
      cases finishes with
      | theEnd => exact .inl ⟨_, shown⟩
      | optionless | unprintable =>
          cases ended
          cases zero

end closing

end Player

namespace Launch

/-- The ways a launch can go once the settings are read. -/
inductive Goes (arguments : Arguments) : Launched → Prop where
  | refused : Goes arguments (.ended 1)
  | escaped (escape) : Goes arguments (.escaped escape)
  | playing {player knot state} (named : arguments.start = some knot)
      (started : player.stage.start knot = .ok state) :
      Goes arguments (.playing player (player.start state).2)

variable {files : Files} {surroundings : Surroundings} {arguments : Arguments} {path : Path}
  {config : Config} {printed : String}

/-- The exit code of a launch that comes back. -/
structure GivesCode (launch : Launch) (arguments : Arguments) (lines : List String)
    (exitCode : Nat) : Prop where
  zeroOrOne : exitCode = 0 ∨ exitCode = 1
  /-- Zero says that the session comes to its end or runs out of lines at a choice. -/
  zero : exitCode = 0 ↔ ∃ player knot state drive, arguments.start = some knot ∧
    player.stage.start knot = .ok state ∧
    launch.launched = .playing player (player.start state).2 ∧
    player.Drives state lines drive ∧ drive.Closes

end Launch

namespace Player

variable {player : Player} {state : State} {lines : List String} {exitCode : Nat}

/-- What the calls of a drive come to. -/
structure Faithful.Calls (player : Player) (state : State) (drive : Drive) : Prop where
  plays : Plays player.stage state drive.cues drive.events drive.outcome
  heard : drive.outcome.turnedAway = false
  /-- The label that is printed with a number is the label of the option that the number picks. -/
  picks : ∀ after prompt labels (number : Nat),
    drive.outcome = (after, .ok (.choice prompt labels)) → 1 ≤ number → number ≤ labels.length →
    ∃ pending option, after.pending = some pending ∧
      Stage.picked? pending.choice (.int number) = some (number, option) ∧
      (numbered 1 labels)[number - 1]? = some s!"{number}. {option.label}"

/-- What stops a sitting, and what becomes of the lines. -/
structure Faithful.Lines (player : Player) (state : State) (lines : List String)
    (sitting : Sitting) : Prop where
  /-- It is stopped by a fault that stops a walk, or at a choice without options before a line is
  read for it. -/
  stopped : ∀ fault, sitting.play.phase = .over (.stopped fault) →
    player.stage.Stops fault ∨ fault = .noOptions ∧ ∃ drive after prompt,
      player.Drives state lines drive ∧ drive.outcome = (after, .ok (.choice prompt [])) ∧
        sitting.unread = drive.unread ∧ sitting.read = drive.read
  readOrLeft : sitting.read.map Reading.line ++ sitting.unread = lines
  /-- Without the lines that chose nothing it comes to the same. -/
  useful : ∃ twin, player.Reaches state sitting.useful twin ∧ twin.play = sitting.play ∧
    twin.unread = sitting.unread ∧ twin.events = sitting.events

/-- A player drives a session as it should. -/
structure Faithful (player : Player) (state : State) (lines : List String) : Prop where
  /-- Turns lead to the sittings that stand at a drive and to no others. -/
  reached : ∀ sitting, player.Reaches state lines sitting ↔
    ∃ drive, player.Drives state lines drive ∧ player.Stands drive sitting
  calls : ∀ drive, player.Drives state lines drive → Faithful.Calls player state drive
  sittings : ∀ sitting, player.Reaches state lines sitting →
    Faithful.Lines player state lines sitting
  codes : ∀ files surroundings arguments path config exitCode,
    let launch := Launch.withConfig files surroundings arguments path config
    launch.Returns lines exitCode → launch.GivesCode arguments lines exitCode

end Player

end StoryGraph.Terminal
