import StoryGraph.Proofs.Upcoming

/-!
Whole sessions against tellings. A session is a row of calls that play on, up to the end
of the story or a fault; a call that is turned away changes nothing, and a choice that
waits is no new event when it is shown again.

Every session is a telling with the options it took for answers. The other way round,
every telling can be played by calls if each walk has the budget and no notice is
refused: each answer takes a call, which shows the next event too, and every other event
takes a call of its own.
-/

set_option autoImplicit false

namespace StoryGraph

/-- The faults that a telling does not know: it has no budget and no listener. -/
def Fault.cutsShort : Fault → Bool
  | .navigationLoop _ _ | .refused _ => true
  | _ => false

/-- An ending as far as a telling knows it. -/
def Stop.told : Stop → Stop
  | .failed fault => if fault.cutsShort then .unfinished else .failed fault
  | ending => ending

/-- What a row of calls showed, how it stopped, and the state it left. -/
structure Session where
  events : List Event
  ending : Stop
  state : State

namespace Session

/-- A session before its first call. -/
def idle (state : State) : Session :=
  ⟨[], if state.pending.isSome then .waiting else .unfinished, state⟩

/-- Go on after a call, unless it shows the end or fails for more than being turned away. -/
def next (goOn : State → Session) (repeated : Bool) : Outcome Event → Session
  | (after, .error fault) =>
      if fault.isRejection then goOn after else ⟨[], .failed fault, after⟩
  | (after, .ok event) =>
      if event = .theEnd then ⟨[.theEnd], .finished, after⟩
      else if repeated then goOn after
      else { goOn after with events := event :: (goOn after).events }

def told (session : Session) : Telling :=
  ⟨session.events, session.ending.told, session.state.memory⟩

/-- A session from a state tells what is to come there, with the options it takes. -/
def Tells (session : Session) (stage : Stage) (state : State) : Prop :=
  ∃ fuel answers, session.state.memory.taken = state.memory.taken ++ answers ∧
    stage.resume fuel state answers = session.told

/-- A session plays a telling: it shows the same events and, unless the telling was cut
off, it ends the same way and remembers the same. -/
structure Plays (session : Session) (telling : Telling) : Prop where
  events : session.events = telling.events
  ended : telling.ending ≠ .unfinished →
    session.ending = telling.ending ∧ session.state.memory = telling.memory

end Session

/-- The choice that waits is shown again. -/
def Cue.repeats (state : State) : Cue → Bool
  | .advance => state.pending.isSome
  | .commit _ => false

theorem Memory.assignAll_error {memory after : Memory} {assignments : List (String × Value)}
    {fault : Fault} (assigned : memory.assignAll assignments = (after, .error fault)) :
    ∃ name typeName, fault = .invalidValue name typeName := by
  induction assignments generalizing memory with
  | nil => cases assigned
  | cons assignment rest inductionHypothesis =>
      obtain ⟨name, value⟩ := assignment
      rw [Memory.assignAll] at assigned
      cases isScalar : value.scalar? with
      | none =>
          rw [isScalar] at assigned
          cases assigned
          exact ⟨_, _, rfl⟩
      | some scalar =>
          rw [isScalar] at assigned
          exact inductionHypothesis assigned

theorem Story.pursue_error {story : Story} {memory after : Memory} {option : ChoiceOption}
    {rest : List Item} {fault : Fault}
    (pursued : story.pursue memory option rest = (after, .error fault)) :
    fault.isRejection = false ∧ fault.cutsShort = false := by
  unfold pursue at pursued
  split at pursued
  · rename_i assigned
    cases pursued
    obtain ⟨_, _, rfl⟩ := Memory.assignAll_error assigned
    exact ⟨rfl, rfl⟩
  · split at pursued
    · cases pursued
    · split at pursued
      · cases pursued
        exact ⟨rfl, rfl⟩
      · cases pursued

theorem Choice.option?_eq_some {choice : Choice} {number : Nat} {option : ChoiceOption} :
    choice.option? number = some option ↔
      Stage.picked? choice (.int number) = some (number, option) := by
  rw [Stage.picked?_eq_some, Choice.option?]
  split
  · simp_all
  · constructor
    · intro present
      exact ⟨rfl, by omega, present⟩
    · exact fun ⟨_, _, present⟩ => present

namespace Stage

/-- Play cues from a state. -/
def session (stage : Stage) : List Cue → State → Session
  | [], state => .idle state
  | cue :: cues, state =>
      .next (stage.session cues) (cue.repeats state) (stage.play state cue)

/-- The listener, if there is one, refuses nothing. -/
def Unopposed (stage : Stage) : Prop :=
  ∀ listener, stage.listener = some listener → ∀ heard notice,
    listener.refuses heard notice = false

variable {stage : Stage}

theorem Unopposed.report (unopposed : stage.Unopposed) (state : State) (notice : Notice) :
    (stage.report state notice).2 = .ok () := by
  unfold Stage.report
  split
  · rfl
  · rename_i listener present
    simp [unopposed listener present]

theorem Unopposed.heeded (unopposed : stage.Unopposed) {moment : Moment}
    {outcome : Outcome Event} (halts : stage.Halts moment outcome) (notice : Notice) :
    outcome.2 ≠ .error (.refused notice) := by
  intro failure
  cases halts.rules with
  | theEnd => cases failure
  | say => cases failure
  | ask => cases failure
  | astray => cases failure
  | unassignable => cases failure
  | undecided _ _ evaluated =>
      cases failure
      rcases evaluate_error evaluated with ⟨_, mismatched⟩ | ⟨told, refused, _⟩
      · cases mismatched
      · rw [unopposed.report] at refused
        cases refused
  | unskipped _ _ reported =>
      have answered := congrArg Prod.snd reported
      rw [unopposed.report] at answered
      cases answered

theorem resume_of_ends {count : Nat} {state : State} {outcome : Outcome Event}
    (placed : state.InPlace stage.story) (idle : state.pending = none)
    (ends : stage.Ends count ⟨state, none⟩ outcome)
    (heeded : ∀ notice, outcome.2 ≠ .error (.refused notice)) (fuel : Nat)
    (answers : List Nat) :
    stage.resume (fuel + count) state answers =
      (stage.resume fuel outcome.1 answers).behind outcome := by
  have placedHere := placed.outset idle
  obtain ⟨before, last, rfl, goes, halts⟩ := ends.last
  have placedLast := goes.inPlace placedHere
  rw [resume_of_idle idle, Nat.add_comm before 1, ← Nat.add_assoc,
    tell_of_goes goes placedHere (fuel + 1) answers]
  exact tell_of_halts placedLast halts heeded fuel answers

theorem resume_of_goes {count : Nat} {state : State} {last : Moment}
    (placed : state.InPlace stage.story) (idle : state.pending = none)
    (goes : stage.Goes count ⟨state, none⟩ last) (answers : List Nat) :
    stage.resume count state answers = ⟨[], .unfinished, last.state.memory⟩ := by
  have placedHere := placed.outset idle
  rw [resume_of_idle idle, ← Nat.zero_add count, tell_of_goes goes placedHere 0 answers]
  rfl

/-- A walk that fails fails the telling or, where a telling knows no such fault, cuts it
off. -/
theorem resume_of_failed_walk {state after : State} {fault : Fault}
    (placed : state.InPlace stage.story) (idle : state.pending = none)
    (failed : stage.walkOn state = (after, .error fault)) :
    fault.isRejection = false ∧ after.memory.taken = state.memory.taken ∧
      ∃ fuel, ∀ answers,
        stage.resume fuel state answers = ⟨[], (Stop.failed fault).told, after.memory⟩ := by
  have rules := stage.walkOn_rules state
  rw [failed] at rules
  cases rules with
  | spent goes =>
      refine ⟨rfl, goes.taken, stage.settings.maxSteps, fun answers => ?_⟩
      exact resume_of_goes placed idle goes answers
  | @ended before _ _ _ goes halts =>
      refine ⟨halts.not_rejection, ?_, ?_⟩
      · exact (congrArg Memory.taken halts.memory).trans goes.taken
      · cases unknown : fault.cutsShort with
        | true =>
            refine ⟨before, fun answers => ?_⟩
            rw [resume_of_goes placed idle goes, ← halts.memory]
            simp [Stop.told, unknown]
        | false =>
            refine ⟨0 + (before + 1), fun answers => ?_⟩
            rw [resume_of_ends placed idle (goes.ends halts) _ 0 answers]
            · simp [Stop.told, unknown, Telling.behind]
            · rintro notice refused
              cases refused
              cases unknown

theorem resume_of_shown_walk {state after : State} {event : Event}
    (placed : state.InPlace stage.story) (idle : state.pending = none)
    (shown : stage.walkOn state = (after, .ok event)) :
    after.memory.taken = state.memory.taken ∧
      ∃ count, ∀ fuel answers, stage.resume (fuel + count) state answers =
        (stage.resume fuel after answers).behind (after, .ok event) := by
  have rules := stage.walkOn_rules state
  rw [shown] at rules
  cases rules with
  | @ended before _ _ _ goes halts =>
      exact ⟨(congrArg Memory.taken halts.memory).trans goes.taken,
        before + 1, resume_of_ends placed idle (goes.ends halts) (by simp)⟩

theorem taken_of_fulfil {state after : State} {pending : Pending} {number : Nat}
    {option : ChoiceOption} {fulfilment : Except Fault Unit}
    (fulfilled : stage.fulfil (settle state pending number option) option =
      (after, fulfilment)) :
    after.memory.taken = state.memory.taken ++ [number] := by
  have recorded : (settle state pending number option).memory.taken =
      state.memory.taken ++ [number] := by
    rw [memory_settle]
    rfl
  rcases fulfil_cases fulfilled with ⟨bindings, rfl | ⟨target, _, _, rfl⟩⟩ <;> exact recorded

section tells

variable {cues : List Cue}
  (goOn : ∀ after : State, after.InPlace stage.story → (stage.session cues after).Tells stage after)

include goOn

/-- A walk and the session behind it are a telling if sessions are that from every state. -/
theorem walkOn_tells {state : State} (placed : state.InPlace stage.story)
    (idle : state.pending = none) :
    (Session.next (stage.session cues) false (stage.walkOn state)).Tells stage state := by
  have placedAfter := walkOn_inPlace placed idle
  rcases outcome : stage.walkOn state with ⟨after, fault | event⟩
  · obtain ⟨noRejection, taken, fuel, failed⟩ := resume_of_failed_walk placed idle outcome
    refine ⟨fuel, [], ?_, ?_⟩
    · simp [Session.next, noRejection, taken]
    · simp [Session.next, noRejection, failed, Session.told]
  · obtain ⟨taken, count, shown⟩ := resume_of_shown_walk placed idle outcome
    by_cases last : event = .theEnd
    · refine ⟨0 + count, [], ?_, ?_⟩
      · simp [Session.next, last, taken]
      · rw [shown]
        simp [Session.next, last, Telling.behind, Session.told, Stop.told]
    · rw [outcome] at placedAfter
      obtain ⟨fuel, answers, takenOn, goesOn⟩ := goOn after placedAfter
      refine ⟨fuel + count, answers, ?_, ?_⟩
      · simp [Session.next, last, takenOn, taken]
      · simp [shown, goesOn, Session.next, last, Telling.behind, Telling.after, Session.told]

theorem advance_tells {state : State} (placed : state.InPlace stage.story) :
    (stage.session (.advance :: cues) state).Tells stage state := by
  cases waiting : state.pending with
  | none =>
      have played : stage.session (.advance :: cues) state =
          .next (stage.session cues) false (stage.walkOn state) := by
        simp [session, play, Cue.repeats, waiting]
      rw [played]
      exact walkOn_tells goOn placed waiting
  | some pending =>
      have played : stage.session (.advance :: cues) state = stage.session cues state := by
        simp [session, play, Cue.repeats, waiting, Session.next, Event.ofChoice]
      rw [played]
      exact goOn state placed

theorem commit_tells {state : State} (placed : state.InPlace stage.story) (index : Value) :
    (stage.session (.commit index :: cues) state).Tells stage state := by
  have rules := stage.commit_rules state index
  have played : stage.session (.commit index :: cues) state =
      .next (stage.session cues) false (stage.commit state index) := rfl
  rw [played]
  generalize stage.commit state index = outcome at rules
  cases rules with
  | idle => exact goOn state placed
  | refused waiting unpicked =>
      simp only [Session.next, refusal_isRejection, if_true]
      exact goOn state placed
  | @failed pending number option after fault waiting picked unfulfilled =>
      obtain ⟨rfl, _⟩ := picked?_eq_some.mp picked
      have offered := Choice.option?_eq_some.mpr picked
      obtain ⟨noRejection, known⟩ := Story.pursue_error (pursue_of_fulfil unfulfilled)
      refine ⟨0, [number], ?_, ?_⟩
      · simp [Session.next, noRejection, taken_of_fulfil unfulfilled]
      · rw [resume_of_unfulfilled waiting offered unfulfilled]
        simp [Session.next, noRejection, Session.told, Stop.told, known]
  | @taken pending number option after waiting picked fulfilled =>
      obtain ⟨rfl, _⟩ := picked?_eq_some.mp picked
      have offered := Choice.option?_eq_some.mpr picked
      obtain ⟨placedAfter, idle⟩ := answered_inPlace placed waiting picked fulfilled
      obtain ⟨fuel, answers, takenOn, goesOn⟩ := walkOn_tells goOn placedAfter idle
      refine ⟨fuel, number :: answers, ?_, ?_⟩
      · rw [takenOn, taken_of_fulfil fulfilled, List.append_assoc]
        rfl
      · rw [resume_of_fulfilled waiting offered fulfilled]
        exact goesOn

end tells

theorem session_tells (cues : List Cue) (state : State) (placed : state.InPlace stage.story) :
    (stage.session cues state).Tells stage state := by
  induction cues generalizing state with
  | nil =>
      refine ⟨0, [], (List.append_nil _).symm, ?_⟩
      cases waiting : state.pending <;>
        simp [resume, waiting, session, Session.idle, Session.told, Stop.told, Story.tell,
          Story.answer]
  | cons cue cues inductionHypothesis =>
      cases cue with
      | advance => exact advance_tells inductionHypothesis placed
      | commit index => exact commit_tells inductionHypothesis placed index

/-- Behind a walk that the telling lives through, calls play the rest of the telling. -/
theorem next_plays (unopposed : stage.Unopposed) {fuel : Nat}
    (enough : fuel ≤ stage.settings.maxSteps) {state : State} {answers : List Nat}
    (placed : state.InPlace stage.story) (idle : state.pending = none)
    (goOn : ∀ less < fuel, ∀ after : State, after.InPlace stage.story →
      ∃ cues, (stage.session cues after).Plays (stage.resume less after answers)) :
    stage.resume fuel state answers = ⟨[], .unfinished, (stage.resume fuel state answers).memory⟩ ∨
      ∃ cues, (Session.next (stage.session cues) false (stage.walkOn state)).Plays
        (stage.resume fuel state answers) := by
  rcases stage.goes_or_ends fuel ⟨state, none⟩ with ⟨last, goes⟩ | ⟨count, outcome, inTime, ends⟩
  · left
    rw [resume_of_goes placed idle goes]
  · right
    have placedAfter := walkOn_inPlace placed idle
    have walked : stage.walkOn state = outcome := walk_of_ends ends (by omega)
    obtain ⟨before, _, counted, _, halts⟩ := ends.last
    obtain ⟨less, rfl⟩ : ∃ less, fuel = less + count := ⟨fuel - count, by omega⟩
    rw [resume_of_ends placed idle ends (unopposed.heeded halts), walked]
    rw [walked] at placedAfter
    rcases outcome with ⟨after, fault | event⟩
    · refine ⟨[], ?_⟩
      simp only [Session.next, halts.not_rejection]
      exact ⟨rfl, fun _ => ⟨rfl, rfl⟩⟩
    · by_cases last : event = .theEnd
      · refine ⟨[], ?_⟩
        simp only [Session.next, Telling.behind, last, if_true]
        exact ⟨rfl, fun _ => ⟨rfl, rfl⟩⟩
      · obtain ⟨cues, plays⟩ := goOn less (by omega) after placedAfter
        refine ⟨cues, ?_⟩
        simp only [Session.next, Telling.behind, if_neg last]
        exact ⟨congrArg (event :: ·) plays.events, plays.ended⟩

theorem plays_of_cut {state : State} {telling : Telling}
    (cut : telling = ⟨[], .unfinished, telling.memory⟩) :
    (stage.session [] state).Plays telling := by
  rw [cut]
  exact ⟨rfl, fun ended => absurd rfl ended⟩

theorem idle_plays (unopposed : stage.Unopposed) {fuel : Nat}
    (enough : fuel ≤ stage.settings.maxSteps) {state : State} {answers : List Nat}
    (placed : state.InPlace stage.story) (idle : state.pending = none)
    (goOn : ∀ less < fuel, ∀ after : State, after.InPlace stage.story →
      ∃ cues, (stage.session cues after).Plays (stage.resume less after answers)) :
    ∃ cues, (stage.session cues state).Plays (stage.resume fuel state answers) := by
  rcases next_plays unopposed enough placed idle goOn with cut | ⟨cues, plays⟩
  · exact ⟨[], plays_of_cut cut⟩
  · refine ⟨.advance :: cues, ?_⟩
    simpa [session, play, Cue.repeats, idle] using plays

theorem waiting_plays (unopposed : stage.Unopposed) {fuel : Nat}
    (enough : fuel ≤ stage.settings.maxSteps) {state : State} {pending : Pending}
    {answers : List Nat} (placed : state.InPlace stage.story)
    (waiting : state.pending = some pending)
    (goOn : ∀ less < fuel, ∀ answers (after : State), after.InPlace stage.story →
      ∃ cues, (stage.session cues after).Plays (stage.resume less after answers)) :
    ∃ cues, (stage.session cues state).Plays (stage.resume fuel state answers) := by
  have unanswered : (stage.session [] state).Plays ⟨[], .waiting, state.memory⟩ := by
    refine ⟨rfl, fun _ => ⟨?_, rfl⟩⟩
    simp [session, Session.idle, waiting]
  cases answers with
  | nil =>
      refine ⟨[], ?_⟩
      rw [resume, waiting]
      exact unanswered
  | cons number answers =>
      cases offered : pending.choice.option? number with
      | none =>
          refine ⟨[], ?_⟩
          simp only [resume, waiting, Story.answer, offered]
          exact unanswered
      | some option =>
          have picked := Choice.option?_eq_some.mp offered
          rcases fulfilled : stage.fulfil (settle state pending number option) option with
            ⟨after, fault | _⟩
          · obtain ⟨noRejection, _⟩ := Story.pursue_error (pursue_of_fulfil fulfilled)
            refine ⟨[.commit (.int number)], ?_⟩
            rw [resume_of_unfulfilled waiting offered fulfilled, session, play,
              commit_of_picked waiting picked, fulfilled, Outcome.andThen_error]
            simp only [Session.next, noRejection]
            exact ⟨rfl, fun _ => ⟨rfl, rfl⟩⟩
          · obtain ⟨placedAfter, idle⟩ := answered_inPlace placed waiting picked fulfilled
            rw [resume_of_fulfilled waiting offered fulfilled]
            rcases next_plays unopposed enough placedAfter idle
              (fun less fewer => goOn less fewer answers) with cut | ⟨cues, plays⟩
            · exact ⟨[], plays_of_cut cut⟩
            · refine ⟨.commit (.int number) :: cues, ?_⟩
              rw [session, play, commit_of_picked waiting picked, fulfilled,
                Outcome.andThen_ok]
              exact plays

/-- A telling that goes on from a state in place is played by calls. -/
theorem session_plays (unopposed : stage.Unopposed) (fuel : Nat)
    (enough : fuel ≤ stage.settings.maxSteps) (answers : List Nat) (state : State)
    (placed : state.InPlace stage.story) :
    ∃ cues, (stage.session cues state).Plays (stage.resume fuel state answers) := by
  -- Each event takes at least one item of the fuel.
  induction fuel using Nat.strongRecOn generalizing answers state with
  | ind fuel inductionHypothesis =>
      have goOn : ∀ less < fuel, ∀ answers (after : State), after.InPlace stage.story →
          ∃ cues, (stage.session cues after).Plays (stage.resume less after answers) :=
        fun less fewer => inductionHypothesis less fewer (by omega)
      cases waiting : state.pending with
      | none =>
          exact idle_plays unopposed enough placed waiting
            (fun less fewer => goOn less fewer answers)
      | some pending => exact waiting_plays unopposed enough placed waiting goOn

/-- A session that starts in a knot is a telling of that knot's items, of any length where
it came to a stop of its own, and a telling of them is played by such a session. -/
theorem sessions_are_tellings (stage : Stage) (knot : String) (state : State)
    (started : stage.start knot = .ok state) :
    ∃ items, stage.story.get? knot = some items ∧
    (∀ cues, ∃ fuel,
      let session := stage.session cues state
      let telling := fun fuel => stage.story.tell stage.settings.strictTypes fuel items
        (.opening knot) session.state.memory.taken
      telling fuel = ⟨session.events, session.ending.told, session.state.memory⟩ ∧
        (session.ending.told ≠ .unfinished → ∀ more, telling (fuel + more) = telling fuel)) ∧
    (stage.Unopposed → ∀ fuel answers, fuel ≤ stage.settings.maxSteps → ∃ cues,
      let session := stage.session cues state
      let telling := stage.story.tell stage.settings.strictTypes fuel items (.opening knot) answers
      session.events = telling.events ∧
        (telling.ending ≠ .unfinished →
          session.ending = telling.ending ∧ session.state.memory = telling.memory)) := by
  obtain ⟨known, rfl⟩ := start_eq_ok.mp started
  obtain ⟨items, found⟩ := Option.isSome_iff_exists.mp known
  have placed := opening_inPlace known
  -- Before the first call all of the knot is still to come.
  have begins : ∀ fuel answers, stage.resume fuel (.opening knot) answers =
      stage.story.tell stage.settings.strictTypes fuel items (.opening knot) answers := by
    intro fuel answers
    rw [← Story.upcoming_start found]
    rfl
  refine ⟨items, found, ?_, ?_⟩
  · intro cues
    obtain ⟨fuel, answers, taken, told⟩ := session_tells cues _ placed
    have fromStart : (State.opening knot).memory.taken ++ answers = answers := rfl
    rw [begins] at told
    refine ⟨fuel, ?_⟩
    dsimp only
    rw [taken, fromStart]
    refine ⟨told, ?_⟩
    intro ended more
    apply Story.tell_with_more
    rw [told]
    exact ended
  · intro unopposed fuel answers enough
    obtain ⟨cues, plays⟩ := session_plays unopposed fuel enough answers _ placed
    rw [begins] at plays
    exact ⟨cues, plays.events, plays.ended⟩

/-- Behind a choice that a condition wraps, the night falls once. -/
theorem sessions_are_tellings_wrapped :
    let choice : Choice := ⟨none, [.bare "Stay.", .bare "Go."]⟩
    let items := [.unlessSet "mood" (.choice choice), .bare "Night falls."]
    let stage := ofKnots [("start", items)]
    stage.start "start" = .ok (.opening "start") ∧
      ∃ fuel, stage.story.tell false fuel items (.opening "start") [2] =
        ⟨[.choice none ["Stay.", "Go."], .line (.ofBody "Night falls."), .theEnd], .finished,
          (Memory.opening "start").take 2⟩ := by
  intro choice items stage
  have started : stage.start "start" = .ok (.opening "start") := rfl
  obtain ⟨_, found, tellings, _⟩ := sessions_are_tellings stage "start" _ started
  cases (show some items = some _ from found)
  obtain ⟨fuel, told, _⟩ := tellings [.advance, .commit (.int 2), .advance]
  exact ⟨started, fuel, told⟩

end Stage

end StoryGraph
