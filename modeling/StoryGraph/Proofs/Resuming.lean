import StoryGraph.Proofs.Noticing
import StoryGraph.Proofs.SideBySide

/-!
Calls that are broken off and made again. A call that fails in the middle of a walk may leave the
session just where the walk would have gone on, or where it dispatches the same item again. Then
calling again comes to the event to which a session comes that is not broken off.

`Resumes` says what a relation of the states of two sessions has to keep for that: each dispatch of
the session that is not broken off is passed by the other one, at once or over calls that fail.
Every call has the whole budget, and so has what the first session dispatches in one call.

What was noted down before does not matter to what a session does. So the sessions need not have
noted down the same, as long as they are at the same point.
-/

set_option autoImplicit false

namespace StoryGraph.Stage

/-- Calling again as long as the calls fail in one way comes from an outcome to a last one. -/
inductive Retries (stage : Stage) (Again : State → Fault → Prop) :
    Outcome Event → Outcome Event → Prop where
  | done {final event} : Retries stage Again (final, .ok event) (final, .ok event)
  | again {left fault last} (broken : Again left fault)
      (later : Retries stage Again (stage.advance left) last) :
      Retries stage Again (left, .error fault) last

/-- The dispatch at a moment leads to another one, or calling again leads there, as often as the
calls fail in one way. -/
inductive Passes (stage : Stage) (Again : State → Fault → Prop) : Moment → Moment → Prop where
  | onward {moment next} (moves : stage.Moves moment next) : Passes stage Again moment next
  /-- The call fails where the next one has to begin. -/
  | behind {moment left fault} (halts : stage.Halts moment (left, .error fault))
      (idle : left.pending = none) (broken : Again left fault) :
      Passes stage Again moment ⟨left, none⟩
  | again {moment left fault next} (halts : stage.Halts moment (left, .error fault))
      (idle : left.pending = none) (broken : Again left fault)
      (later : Passes stage Again ⟨left, none⟩ next) : Passes stage Again moment next

/-- A relation of the states of two sessions by which the second one passes all that the first
one dispatches on its way to an event. -/
structure Resumes (stage other : Stage) (Again : State → Fault → Prop)
    (Related : State → State → Prop) : Prop where
  budget : other.settings.maxSteps = stage.settings.maxSteps
  moves : ∀ {moment next twin}, moment.state.pending = none → Related moment.state twin →
    stage.Moves moment next → ∃ twinNext,
      other.Passes Again ⟨twin, moment.inline⟩ ⟨twinNext, next.inline⟩ ∧
        Related next.state twinNext
  shows : ∀ {moment final event twin}, moment.state.pending = none → Related moment.state twin →
    stage.Halts moment (final, .ok event) → ∃ last,
      other.Halts ⟨twin, moment.inline⟩ (last, .ok event) ∧ Related final last

/-- Two sessions that go on from one state are at the same point, and what they have noted down
meanwhile is related. -/
structure Abreast (stage other : Stage) (start : State)
    (Echoes : List Notice → List Notice → Prop) (state twin : State) : Prop where
  course : state.SameCourse twin
  notices : ∃ noted told, stage.Told start state noted ∧ other.Told start twin told ∧
    Echoes noted told

variable {stage other : Stage} {Again : State → Fault → Prop}

/-- If calls from a moment come to an outcome within so many dispatches each, then so do calls
from a moment that is passed towards it, within one dispatch more. -/
theorem Passes.retries {moment next : Moment} (passes : other.Passes Again moment next)
    {count : Nat} {last : Outcome Event}
    (later : ∀ budget, count ≤ budget → budget ≤ other.settings.maxSteps →
      other.Retries Again (other.walk budget next.state next.inline) last)
    (budget : Nat) (enough : count + 1 ≤ budget) (within : budget ≤ other.settings.maxSteps) :
    other.Retries Again (other.walk budget moment.state moment.inline) last := by
  obtain ⟨rest, rfl⟩ : ∃ rest, budget = rest + 1 := ⟨budget - 1, by omega⟩
  have enoughAgain : count + 1 ≤ other.settings.maxSteps := Nat.le_trans enough within
  -- Each call made again has the whole budget, so what is left of this one does not matter then.
  induction passes generalizing rest with
  | onward moves =>
      rw [walk_succ_of_moves moves]
      exact later rest (by omega) (by omega)
  | behind halts idle broken =>
      rw [walk_succ_of_halts halts]
      apply Retries.again broken
      rw [advance_of_idle idle]
      exact later _ (by omega) (Nat.le_refl _)
  | again halts idle broken _ inductionHypothesis =>
      rw [walk_succ_of_halts halts]
      apply Retries.again broken
      obtain ⟨whole, full⟩ : ∃ whole, other.settings.maxSteps = whole + 1 :=
        ⟨other.settings.maxSteps - 1, by omega⟩
      simpa [idle, walkOn, full] using inductionHypothesis later whole (by omega) (by omega)

namespace Resumes

variable {Related : State → State → Prop} (resumes : stage.Resumes other Again Related)
  {state twin final : State} {event : Event}

include resumes

theorem ends {count : Nat} {moment : Moment} {outcome : Outcome Event}
    (ends : stage.Ends count moment outcome) (shown : outcome = (final, .ok event))
    (idle : moment.state.pending = none) (related : Related moment.state twin) :
    ∃ last, Related final last ∧ ∀ budget, count ≤ budget → budget ≤ other.settings.maxSteps →
      other.Retries Again (other.walk budget twin moment.inline) (last, .ok event) := by
  induction ends generalizing twin with
  | here halts =>
      subst shown
      obtain ⟨last, twinHalts, relatedLast⟩ := resumes.shows idle related halts
      refine ⟨last, relatedLast, ?_⟩
      intro budget enough _
      obtain ⟨rest, rfl⟩ := Nat.exists_eq_add_of_le' enough
      have walked := walk_succ_of_halts twinHalts rest
      rw [walked]
      exact .done
  | later moves _ inductionHypothesis =>
      obtain ⟨twinNext, passes, relatedNext⟩ := resumes.moves idle related moves
      obtain ⟨last, relatedLast, later⟩ :=
        inductionHypothesis shown (moves.pending.trans idle) relatedNext
      exact ⟨last, relatedLast, passes.retries later⟩

/-- A call that shows an event in one session shows it in the other one, at once or when it is
made again. -/
theorem play (sameStory : other.story = stage.story) {cue : Cue}
    (related : ∀ outset, stage.Told state outset [] → other.Told state outset [] →
      Related outset outset)
    (shown : stage.play state cue = (final, .ok event)) :
    ∃ last, Related final last ∧ other.Retries Again (other.play state cue) (last, .ok event) := by
  rcases stage.outset_or_still state cue with ⟨outset, walks⟩ | still
  · have rules := stage.walkOn_rules outset
    rw [← walks.play, shown] at rules
    cases rules with
    | ended enough goes halts =>
        obtain ⟨last, relatedLast, later⟩ := resumes.ends (goes.ends halts) rfl walks.idle
          (related outset walks.nothing_told walks.nothing_told)
        rw [← resumes.budget] at enough
        rw [(walks.congr sameStory).play]
        exact ⟨last, relatedLast, later _ enough (Nat.le_refl _)⟩
  · obtain ⟨played, told⟩ := still other sameStory
    have stays := (still stage rfl).2
    rw [shown] at played told stays
    rw [played]
    exact ⟨final, related final stays told, .done⟩

end Resumes

section abreast

variable {start state twin : State} {inline : Option Item}
  {Echoes : List Notice → List Notice → Prop}

variable (unopposed : stage.Unopposed) (idle : state.pending = none)
  (abreast : stage.Abreast other start Echoes state twin)
  (alike : other.step twin inline = stage.step twin inline)
  (echoes : ∀ noted told, Echoes noted told →
    Echoes (noted ++ (stage.noted? state inline).toList)
      (told ++ (other.noted? twin inline).toList))

include unopposed idle abreast alike echoes

/-- Sessions stay abreast over a dispatch that is the same over both stages. -/
theorem Abreast.moves {next : Moment} (moves : stage.Moves ⟨state, inline⟩ next) :
    ∃ twinNext, other.Moves ⟨twin, inline⟩ ⟨twinNext, next.inline⟩ ∧
      stage.Abreast other start Echoes next.state twinNext := by
  obtain ⟨noted, told, notedSince, toldSince, echoed⟩ := abreast.notices
  obtain ⟨twinNext, twinMoves, same⟩ :=
    (unopposed.aligned idle abreast.course inline).moves_same unopposed.sideBySide rfl moves
  have onward : other.Moves ⟨twin, inline⟩ ⟨twinNext, next.inline⟩ := alike.trans twinMoves
  exact ⟨twinNext, onward, same, _, _, notedSince.trans moves.told, toldSince.trans onward.told,
    echoes noted told echoed⟩

theorem Abreast.shows {final : State} {event : Event}
    (halts : stage.Halts ⟨state, inline⟩ (final, .ok event)) :
    ∃ last, other.Halts ⟨twin, inline⟩ (last, .ok event) ∧
      stage.Abreast other start Echoes final last := by
  obtain ⟨noted, told, notedSince, toldSince, echoed⟩ := abreast.notices
  obtain ⟨⟨last, answer⟩, twinHalts, matched⟩ :=
    (unopposed.aligned idle abreast.course inline).halts unopposed.sideBySide halts
  cases matched.answers
  have shown : other.Halts ⟨twin, inline⟩ (last, .ok event) := alike.trans twinHalts
  exact ⟨last, shown, matched.related rfl, _, _, notedSince.trans halts.told,
    toldSince.trans shown.told, echoes noted told echoed⟩

end abreast

end StoryGraph.Stage
