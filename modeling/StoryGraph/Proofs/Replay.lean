import StoryGraph.Proofs.Ledger
import StoryGraph.Proofs.Sessions

/-!
The log of options replays a session. A session may ask for a choice again and give
answers that are turned away; neither leaves a trace. What is left are the events that
were news, and the numbers of the options taken are all that is needed to come to the
same events and the same state by as many calls.
-/

set_option autoImplicit false

namespace StoryGraph

/-- The event that a cue brings; a choice that is shown again is none. -/
def Played.news? (played : Played) : Option Event :=
  if played.cue.repeats played.scene.state then none else played.outcome.2.toOption

/-- The next cue of a replay, and what is left of the log: answer a choice that waits by the
next option of the log, and else go on. -/
def State.nextCue? (state : State) (log : List Nat) : Option (Cue × List Nat) :=
  match state.pending, log with
  | none, log => some (.advance, log)
  | some _, number :: log => some (.commit (.int number), log)
  | some _, [] => none

namespace Stage

/-- So many calls as a log of options tells: the events, what is left of the log and the
last state, unless the log runs out or a call fails. -/
def replay (stage : Stage) : Nat → State → List Nat → Option (List Event × List Nat × State)
  | 0, state, log => some ([], log, state)
  | calls + 1, state, log => do
      let (cue, log) ← state.nextCue? log
      match stage.play state cue with
      | (_, .error _) => none
      | (after, .ok event) =>
          let (events, log, last) ← stage.replay calls after log
          return (event :: events, log, last)

end Stage

/-- The numbers of the options that were taken. -/
def State.optionsTaken (state : State) : List Nat :=
  state.ledger.choices.toList.map ChoiceRecord.option

/-- The calls of a row of cues, with no change of the story between them. -/
def Deed.ofCues (cues : List Cue) : List Deed := cues.map fun cue => .call (.cue cue)

@[simp] theorem Scene.played_ofCues (stage : Stage) (state : State) (cue : Cue)
    (cues : List Cue) :
    let played : Played := ⟨⟨stage, state⟩, cue⟩
    (Scene.mk stage state).played (Deed.ofCues (cue :: cues)) =
      played :: (Scene.mk stage played.outcome.1).played (Deed.ofCues cues) := rfl

@[simp] theorem Scene.run_ofCues (stage : Stage) (state : State) (cue : Cue) (cues : List Cue) :
    let played : Played := ⟨⟨stage, state⟩, cue⟩
    (Scene.mk stage state).run (Deed.ofCues (cue :: cues)) =
      (Scene.mk stage played.outcome.1).run (Deed.ofCues cues) := rfl

namespace Stage

variable {stage : Stage} {state : State}

theorem replay_succ {calls : Nat} {cue : Cue} {log rest left : List Nat} {after last : State}
    {event : Event} {events : List Event} (next : state.nextCue? log = some (cue, rest))
    (shown : stage.play state cue = (after, .ok event))
    (replayed : stage.replay calls after rest = some (events, left, last)) :
    stage.replay (calls + 1) state log = some (event :: events, left, last) := by
  simp [replay, next, shown, replayed]

end Stage

namespace Played

variable {played : Played}

/-- A cue that is heard and brings news is the next one of a replay, which reads from the log
just the option that the cue takes. -/
theorem nextCue?_of_heard (heard : played.outcome.turnedAway = false)
    (fresh : played.cue.repeats played.scene.state = false) :
    ∃ options,
      played.outcome.1.optionsTaken = played.scene.state.optionsTaken ++ options ∧
      ∀ log, played.scene.state.nextCue? (options ++ log) = some (played.cue, log) := by
  cases accepted : played.accepted with
  | false =>
      refine ⟨[], ?_, ?_⟩
      · rw [State.optionsTaken, choices_outcome_of_refused accepted, List.append_nil]
        rfl
      · intro log
        cases isCue : played.cue with
        | advance =>
            have idle : played.scene.state.pending = none := by
              simpa [isCue, Cue.repeats] using fresh
            simp [State.nextCue?, idle]
        | commit index => simp [Played.accepted, isCue, heard] at accepted
  | true =>
      obtain ⟨record, tells, written⟩ := choices_outcome_of_accepted accepted
      obtain ⟨pending, waiting, _, _⟩ := tells.place
      refine ⟨[record.option], ?_, ?_⟩
      · simp [State.optionsTaken, written]
      · intro log
        simp [State.nextCue?, waiting, tells.index]

/-- What is turned away changes nothing and is no news. -/
theorem silent_of_turnedAway (turned : played.outcome.turnedAway = true) :
    played.outcome.1 = played.scene.state ∧ played.news? = none := by
  refine ⟨Stage.play_of_turnedAway turned, ?_⟩
  rcases outcome : played.outcome with ⟨after, fault | event⟩
  · simp [news?, outcome, Except.toOption]
  · rw [outcome] at turned
    cases turned

theorem silent_of_repeats (repeated : played.cue.repeats played.scene.state = true) :
    played.outcome.1 = played.scene.state ∧ played.news? = none := by
  refine ⟨?_, by simp [news?, repeated]⟩
  cases isCue : played.cue with
  | commit index => simp [isCue, Cue.repeats] at repeated
  | advance =>
      rw [isCue, Cue.repeats] at repeated
      obtain ⟨pending, waiting⟩ := Option.isSome_iff_exists.mp repeated
      simp [outcome, isCue, Stage.play, waiting]

end Played

namespace Scene

/-- A run of cues in which no call fails is replayed from its options. -/
theorem replay_of_unfailing (stage : Stage) (cues : List Cue) (state : State)
    (unfailing : ∀ played ∈ (Scene.mk stage state).played (Deed.ofCues cues), ∀ fault,
      played.outcome.2 = .error fault → fault.isRejection = true) :
    let events := ((Scene.mk stage state).played (Deed.ofCues cues)).filterMap Played.news?
    let last := ((Scene.mk stage state).run (Deed.ofCues cues)).state
    ∃ log, last.optionsTaken = state.optionsTaken ++ log ∧
      stage.replay events.length state log = some (events, [], last) := by
  induction cues generalizing state with
  | nil => exact ⟨[], (List.append_nil _).symm, rfl⟩
  | cons cue cues inductionHypothesis =>
      let played : Played := ⟨⟨stage, state⟩, cue⟩
      obtain ⟨first, rest⟩ := List.forall_mem_cons.mp unfailing
      obtain ⟨log, taken, replayed⟩ := inductionHypothesis played.outcome.1 rest
      rw [played_ofCues, run_ofCues]
      by_cases silent : played.outcome.1 = state ∧ played.news? = none
      · obtain ⟨same, noNews⟩ := silent
        rw [List.filterMap_cons_none noNews]
        rw [same] at taken replayed ⊢
        exact ⟨log, taken, replayed⟩
      · have heard : played.outcome.turnedAway = false :=
          Bool.eq_false_iff.mpr fun turned => silent (Played.silent_of_turnedAway turned)
        have fresh : played.cue.repeats played.scene.state = false :=
          Bool.eq_false_iff.mpr fun repeated => silent (Played.silent_of_repeats repeated)
        obtain ⟨options, takes, next⟩ := Played.nextCue?_of_heard heard fresh
        rcases outcome : played.outcome with ⟨after, fault | event⟩
        · rw [outcome, Outcome.turnedAway, first fault (by rw [outcome])] at heard
          cases heard
        · have news : played.news? = some event := by
            simp [Played.news?, fresh, outcome, Except.toOption]
          rw [List.filterMap_cons_some news]
          rw [outcome] at taken replayed takes
          refine ⟨options ++ log, ?_, ?_⟩
          · rw [taken, takes, List.append_assoc]
          · exact Stage.replay_succ (next log) outcome replayed

/-- Take a run from a start in which no call fails except that answers are turned away. As
many calls as it brought events that were news, each answering a choice that waits by the
next option that the run took and else going on, bring just these events, use every option
and lead to the same state. -/
theorem options_replay_session (stage : Stage) (knot : String) (state : State)
    (started : stage.start knot = .ok state) (cues : List Cue)
    (unfailing : ∀ played ∈ (Scene.mk stage state).played (Deed.ofCues cues), ∀ fault,
      played.outcome.2 = .error fault → fault.isRejection = true) :
    let events := ((Scene.mk stage state).played (Deed.ofCues cues)).filterMap Played.news?
    let last := ((Scene.mk stage state).run (Deed.ofCues cues)).state
    stage.replay events.length state last.optionsTaken = some (events, [], last) := by
  obtain ⟨_, rfl⟩ := Stage.start_eq_ok.mp started
  intro events last
  obtain ⟨log, taken, replayed⟩ := replay_of_unfailing stage cues _ unfailing
  have opening : (State.opening knot).optionsTaken = [] := rfl
  rw [opening, List.nil_append] at taken
  rw [taken]
  exact replayed

/-- Two calls that ask again and one answer too many are left out of the replay. -/
theorem options_replay_session_wrapped :
    let choice : Choice := ⟨none, [.bare "Stay.", .bare "Go."]⟩
    let stage := Stage.ofKnots
      [("start", [.unlessSet "mood" (.choice choice), .bare "Night falls."])]
    let cues : List Cue := [.commit (.int 1), .advance, .advance, .commit (.int 3),
      .commit (.int 2), .commit (.int 2), .advance]
    let last := ((Scene.mk stage (.opening "start")).run (Deed.ofCues cues)).state
    stage.start "start" = .ok (.opening "start") ∧
      (∀ played ∈ (Scene.mk stage (.opening "start")).played (Deed.ofCues cues), ∀ fault,
        played.outcome.2 = .error fault → fault.isRejection = true) ∧
      last.optionsTaken = [2] ∧
      stage.replay 3 (.opening "start") [2] =
        some ([.choice none ["Stay.", "Go."], .line (.ofBody "Night falls."), .theEnd], [],
          last) := by
  intro choice stage cues last
  have started : stage.start "start" = .ok (.opening "start") := rfl
  have unfailing : ∀ played ∈ (Scene.mk stage (.opening "start")).played (Deed.ofCues cues),
      ∀ fault, played.outcome.2 = .error fault → fault.isRejection = true := by
    intro played given fault failed
    have checked : ((Scene.mk stage (.opening "start")).played (Deed.ofCues cues)).all
        (fun played => played.outcome.turnedAway || played.outcome.2.isOk) = true := by
      decide +kernel
    have turnedAway := List.all_eq_true.mp checked played given
    rw [Outcome.turnedAway_of_error failed, failed] at turnedAway
    simpa [Except.isOk, Except.toBool] using turnedAway
  have taken : last.optionsTaken = [2] := by decide +kernel
  have shown : ((Scene.mk stage (.opening "start")).played (Deed.ofCues cues)).filterMap
      Played.news? = [.choice none ["Stay.", "Go."], .line (.ofBody "Night falls."), .theEnd] := by
    decide +kernel
  have replayed := options_replay_session stage "start" _ started cues unfailing
  dsimp only at replayed
  rw [shown, taken] at replayed
  exact ⟨started, unfailing, taken, replayed⟩

end Scene

end StoryGraph
