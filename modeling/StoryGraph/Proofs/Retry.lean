import StoryGraph.Proofs.Budget
import StoryGraph.Proofs.Places

/-!
What becomes of an item whose dispatch was broken off, by a missing knot, by a value
that is no scalar or by a budget that is spent. The next call begins at the cursor.
If the item stands there, it is dispatched again, and nothing is lost; a call that is
made again and again then does what one call with a larger budget does. But an inline
item stands before the cursor, and which item that was is not kept between calls: it
is passed over.
-/

set_option autoImplicit false

namespace StoryGraph

/-- The faults that break a walk off at an item that was not carried out. -/
def Fault.breaksOff : Fault → Bool
  | .unknownDivert _ | .invalidValue _ _ | .navigationLoop _ _ => true
  | _ => false

def Fault.isLoop : Fault → Bool
  | .navigationLoop _ _ => true
  | _ => false

/-- Where the item of the next dispatch stands: at the cursor or, inline, before it. -/
def Moment.place (moment : Moment) : Cursor :=
  match moment.inline with
  | none => moment.state.cursor
  | some _ => ⟨moment.state.cursor.knot, moment.state.cursor.position - 1⟩

namespace Stage

/-- A call that walks from a state is broken off at a moment. -/
inductive BreaksOff (stage : Stage) (state : State) (moment : Moment) : Fault → Prop where
  /-- The budget is spent. -/
  | spent (goes : stage.Goes stage.settings.maxSteps ⟨state, none⟩ moment) :
      BreaksOff stage state moment
        (.navigationLoop stage.settings.maxSteps moment.state.cursor)
  /-- The dispatch at the moment fails and changes nothing. -/
  | blocked {count fault} (goes : stage.Goes count ⟨state, none⟩ moment)
      (early : count < stage.settings.maxSteps)
      (halts : stage.Halts moment (moment.state, .error fault)) (noLoop : fault.isLoop = false) :
      BreaksOff stage state moment fault

/-- Call again as long as the calls fail, at most so many times. -/
def persist (stage : Stage) : Nat → State → Outcome Event
  | 0, state => stage.advance state
  | times + 1, state =>
      match stage.advance state with
      | (left, .error _) => stage.persist times left
      | outcome => outcome

variable {stage : Stage}

/-- Of the faults that break a walk off, a dispatch gives only such as change nothing. -/
theorem Halts.blocked {moment : Moment} {after : State} {fault : Fault}
    (halts : stage.Halts moment (after, .error fault)) (kind : fault.breaksOff = true) :
    after = moment.state ∧ fault.isLoop = false := by
  cases halts.rules with
  | astray => exact ⟨rfl, rfl⟩
  | unassignable => exact ⟨rfl, rfl⟩
  | undecided _ _ evaluated =>
      rcases evaluate_error evaluated with ⟨_, rfl⟩ | ⟨_, _, rfl⟩ <;> cases kind
  | unskipped _ _ reported =>
      cases report_error reported
      cases kind

theorem breaksOff_of_walkOn {state left : State} {fault : Fault}
    (broken : stage.walkOn state = (left, .error fault)) (kind : fault.breaksOff = true) :
    ∃ inline, stage.BreaksOff state ⟨left, inline⟩ fault := by
  have rules := stage.walkOn_rules state
  rw [broken] at rules
  cases rules with
  | @ended _ last _ enough goes halts =>
      obtain ⟨rfl, noLoop⟩ := halts.blocked kind
      exact ⟨last.inline, .blocked goes enough halts noLoop⟩
  | @spent last goes => exact ⟨last.inline, .spent goes⟩

theorem walkOn_of_blocked {state : State} {fault : Fault}
    (halts : stage.Halts ⟨state, none⟩ (state, .error fault)) :
    stage.walkOn state = (state, .error fault) := by
  have ends : stage.Ends 1 ⟨state, none⟩ (state, .error fault) := .here halts
  exact walk_of_ends ends stage.settings.positive

/-- If no budget is ever spent at an inline item, calls made again and again come to
the event at which a walk without a budget ends. -/
theorem persist_of_ends {total : Nat} {state final : State} {event : Event}
    (idle : state.pending = none)
    (ends : stage.Ends total ⟨state, none⟩ (final, .ok event))
    (bare : ∀ times moment,
      stage.Goes (times * stage.settings.maxSteps) ⟨state, none⟩ moment →
        moment.inline = none) :
    ∃ times, stage.persist times state = (final, .ok event) := by
  -- Each call that fails takes a whole budget off what is left of the walk.
  induction total using Nat.strongRecOn generalizing state with
  | ind total inductionHypothesis =>
      have positive := stage.settings.positive
      by_cases enough : total ≤ stage.settings.maxSteps
      · have shown : stage.advance state = (final, .ok event) := by
          simpa [idle, walkOn] using walk_of_ends ends enough
        exact ⟨0, shown⟩
      · obtain ⟨⟨left, inline⟩, goes⟩ := ends.goes_before (Nat.lt_of_not_le enough)
        obtain rfl : inline = none := bare 1 _ (by rwa [Nat.one_mul])
        obtain ⟨rest, rfl, endsRest⟩ := goes.ends_rest ends
        have failed : stage.advance state = (left, .error
            (.navigationLoop stage.settings.maxSteps left.cursor)) := by
          simpa [idle, walkOn] using walk_of_goes goes
        have bareRest : ∀ times moment,
            stage.Goes (times * stage.settings.maxSteps) ⟨left, none⟩ moment →
              moment.inline = none := by
          intro times moment onward
          refine bare (times + 1) moment ?_
          rw [Nat.succ_mul, Nat.add_comm]
          exact goes.trans onward
        obtain ⟨times, shown⟩ := inductionHypothesis (rest + 1) (by omega)
          (goes.pending.trans idle) endsRest bareRest
        exact ⟨times + 1, by rw [persist, failed]; exact shown⟩

theorem ends_of_advance_withBudget {state final : State} {event : Event} {budget : Nat}
    {positive : 0 < budget} (idle : state.pending = none)
    (shown : (stage.withBudget budget positive).advance state = (final, .ok event)) :
    ∃ total, stage.Ends total ⟨state, none⟩ (final, .ok event) := by
  have budgeted := stage.walkOn_budgeted budget positive state
  rw [advance_of_idle idle] at shown
  rw [shown] at budgeted
  rcases stage.goes_or_ends budget ⟨state, none⟩ with ⟨_, goes⟩ | ⟨count, _, enough, ends⟩
  · obtain ⟨_, _, spent⟩ := budgeted.beyond fun count ending ends => by
      obtain ⟨rest, rfl, _⟩ := goes.ends_rest ends
      omega
    cases spent
  · cases budgeted.within _ _ ends enough
    exact ⟨count, ends⟩

theorem BreaksOff.goes {state : State} {moment : Moment} {fault : Fault}
    (breaksOff : stage.BreaksOff state moment fault) :
    ∃ count, stage.Goes count ⟨state, none⟩ moment := by
  cases breaksOff with
  | spent goes => exact ⟨_, goes⟩
  | blocked goes => exact ⟨_, goes⟩

/-- An inline item stands before the cursor, so the next call does not find it. -/
theorem place_eq_cursor_iff {left : State} {inline : Option Item}
    (placed : Moment.InPlace stage.story ⟨left, inline⟩) :
    (Moment.mk left none).place = (Moment.mk left inline).place ↔ inline = none := by
  constructor
  · intro same
    cases inline with
    | none => rfl
    | some item =>
        exfalso
        obtain ⟨_, _, _, positive, _⟩ := placed.inline item rfl
        have samePosition := congrArg Cursor.position same
        simp only [Moment.place] at samePosition positive
        omega
  · rintro rfl
    rfl

theorem BreaksOff.again {state left : State} {fault : Fault}
    (breaksOff : stage.BreaksOff state ⟨left, none⟩ fault) (idle : left.pending = none)
    (noLoop : fault.isLoop = false) : stage.advance left = (left, .error fault) := by
  rw [advance_of_idle idle]
  cases breaksOff with
  | spent => cases noLoop
  | blocked _ _ halts => exact walkOn_of_blocked halts

theorem BreaksOff.ends_rest {state : State} {moment : Moment} {fault : Fault} {total : Nat}
    {ending : Outcome Event} (breaksOff : stage.BreaksOff state moment fault)
    (loop : fault.isLoop = true) (ends : stage.Ends total ⟨state, none⟩ ending) :
    ∃ rest, total = stage.settings.maxSteps + rest ∧ stage.Ends rest moment ending := by
  cases breaksOff with
  | spent goes =>
      obtain ⟨rest, split, endsRest⟩ := goes.ends_rest ends
      exact ⟨rest + 1, split, endsRest⟩
  | blocked _ _ _ noLoop =>
      rw [noLoop] at loop
      cases loop

/-- What the next call makes of an item that was not carried out. -/
structure TakesUp (stage : Stage) (state left : State) (inline : Option Item) (fault : Fault) :
    Prop where
  breaksOff : stage.BreaksOff state ⟨left, inline⟩ fault
  stands : ∀ item, stage.next? left inline = some item →
    stage.story.Holds (Moment.mk left inline).place.knot
      (Moment.mk left inline).place.position inline.isSome item
  /-- The next call begins where the item stands exactly if it is bare. -/
  iffBare : (Moment.mk left none).place = (Moment.mk left inline).place ↔ inline = none
  /-- A dispatch that failed at a bare item fails again and changes nothing. -/
  again : inline = none → fault.isLoop = false → stage.advance left = (left, .error fault)
  /-- A walk that ran out of budget at a bare item goes on where it was. -/
  onward : inline = none → fault.isLoop = true → ∀ total ending,
    stage.Ends total ⟨state, none⟩ ending →
      ∃ rest, total = stage.settings.maxSteps + rest ∧ stage.Ends rest ⟨left, none⟩ ending

/-- What becomes of a call that was broken off. -/
structure Continues (stage : Stage) (state left : State) (fault : Fault) : Prop where
  idle : left.pending = none
  takesUp : ∃ inline, stage.TakesUp state left inline fault
  /-- An event that a larger budget shows is shown by calls made again and again if none of them
  breaks off inline. -/
  persists : ∀ larger positive final event,
    (stage.withBudget larger positive).advance state = (final, .ok event) →
    (∀ times moment, stage.Goes (times * stage.settings.maxSteps) ⟨state, none⟩ moment →
      moment.inline = none) →
    ∃ times, stage.persist times state = (final, .ok event)

/-- A call that was broken off is taken up again at the very item that was not carried out exactly
if that item is bare. -/
theorem broken_off_resumes_iff_bare (stage : Stage) (knot : String) (state left : State)
    (fault : Fault) (reachable : stage.Reachable knot state) (idle : state.pending = none)
    (broken : stage.advance state = (left, .error fault)) (kind : fault.breaksOff = true) :
    stage.Continues state left fault := by
  rw [advance_of_idle idle] at broken
  obtain ⟨inline, breaksOff⟩ := breaksOff_of_walkOn broken kind
  obtain ⟨count, goes⟩ := breaksOff.goes
  have leftIdle : left.pending = none := goes.pending.trans idle
  have placed : Moment.InPlace stage.story ⟨left, inline⟩ :=
    goes.inPlace ⟨reachable.inPlace, idle, by simp⟩
  have takesUp : stage.TakesUp state left inline fault := by
    refine ⟨breaksOff, ?_, place_eq_cursor_iff placed, ?_, ?_⟩
    · intro item next
      have held := placed.holds_past next
      cases inline <;> exact held
    · rintro rfl noLoop
      exact breaksOff.again leftIdle noLoop
    · rintro rfl loop total ending ends
      exact breaksOff.ends_rest loop ends
  refine ⟨leftIdle, ⟨inline, takesUp⟩, ?_⟩
  intro larger positive final event shown bare
  obtain ⟨total, ends⟩ := ends_of_advance_withBudget idle shown
  exact persist_of_ends idle ends bare

/-- A bare divert to a missing knot is tried again. -/
theorem broken_off_resumes_iff_bare_divert :
    let stage := ofKnots [("start", [.divert "nowhere", .bare "Next."])]
    let state : State := .opening "start"
    stage.BreaksOff state ⟨state, none⟩ (.unknownDivert "nowhere") ∧
      stage.advance state = (state, .error (.unknownDivert "nowhere")) := by
  intro stage state
  have halts : stage.Halts ⟨state, none⟩ (state, .error (.unknownDivert "nowhere")) := rfl
  have continues := broken_off_resumes_iff_bare stage "start" state state _ (.start rfl) rfl rfl rfl
  obtain ⟨inline, takesUp⟩ := continues.takesUp
  have bare : inline = none := by
    cases takesUp.breaksOff with
    | blocked goes =>
        cases goes with
        | start => rfl
        | next moves => exact absurd halts moves.not_halts
  subst bare
  exact ⟨takesUp.breaksOff, takesUp.again rfl rfl⟩

/-- A divert behind a condition is not: the second call goes on behind the condition. -/
theorem broken_off_not_always_resumed :
    ¬ ∀ (stage : Stage) (knot : String) (state left : State) (fault : Fault),
      stage.Reachable knot state → state.pending = none →
      stage.advance state = (left, .error fault) → fault.breaksOff = true →
      fault.isLoop = false → stage.advance left = (left, .error fault) := by
  intro resumes
  let stage := ofKnots [("start",
    [.unlessSet "mood" (.divert "nowhere"), .bare "Next."])]
  have again := resumes stage "start" (.opening "start")
    (stage.advance (.opening "start")).1 (.unknownDivert "nowhere") (.start rfl) rfl rfl rfl rfl
  have shown : (stage.advance (stage.advance (.opening "start")).1).2 =
      .ok (.line (.ofBody "Next.")) := rfl
  rw [again] at shown
  cases shown

end Stage

end StoryGraph
