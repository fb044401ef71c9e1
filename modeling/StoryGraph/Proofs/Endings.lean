import StoryGraph.Proofs.LoopFree
import StoryGraph.Proofs.Replay

/-!
Sessions of a story in which no knot leads back to itself, neither by diverts nor by options.
A session does not come back to a knot that it left, so no knot is visited twice.

The items left to a session are those to come in its knot, behind a choice that waits, and all
items of the knots on the ways from there. Every line and every choice that is shown is one of
them and is left no more, and nothing that a session does brings an item back. So there are no
more lines and choices than items in the story, and a session that is played on one call longer
has come to the end.
-/

set_option autoImplicit false

namespace StoryGraph

/-- Where a session goes on: behind the choice that waits, if one does. -/
def State.onward (state : State) : Cursor :=
  match state.pending with
  | none => state.cursor
  | some pending => pending.behind state.cursor

/-- The number of items that stand in knots. -/
def Story.itemCount (story : Story) : Nat :=
  (story.entries.map fun entry => entry.2.length).sum

/-- No knot was visited twice, and those that were visited lead to the one that the session
is in. -/
structure State.VisitedOnce (story : Story) (state : State) : Prop where
  once : ∀ knot, state.ledger.visitCount knot ≤ 1
  behind : ∀ knot, 0 < state.ledger.visitCount knot → story.Reaches knot state.cursor.knot

@[simp] theorem Story.total_one (story : Story) : story.total (fun _ => 1) = story.itemCount := by
  simp [total, itemCount]

/-- A condition and its body count as one item. -/
theorem Item.priced_one : Priced (fun _ => 1) 0 where
  each := fun _ => Nat.zero_le 1
  body := fun _ _ _ => Nat.le_refl 1

@[simp] theorem State.onward_of_idle {state : State} (idle : state.pending = none) :
    state.onward = state.cursor := by
  simp [onward, idle]

@[simp] theorem State.onward_of_waiting {state : State} {pending : Pending}
    (waiting : state.pending = some pending) :
    state.onward = pending.behind state.cursor := by
  simp [onward, waiting]

theorem Story.carries_visitedOnce {story : Story} (acyclic : Acyclic story.Leads) :
    story.Carries (State.VisitedOnce story) where
  stay := by
    intro before after sameKnot sameVisits visited
    have sameCount := Ledger.visitCount_congr sameVisits
    refine ⟨?_, ?_⟩
    · intro knot
      rw [sameCount]
      exact visited.once knot
    · intro knot
      rw [sameCount, sameKnot]
      exact visited.behind knot
  enter := by
    intro state target leads _ visited
    -- A way from the target to where the session was would now close a circle.
    have fresh : state.ledger.visitCount target = 0 := by
      by_contra before
      have way := visited.behind target (Nat.pos_of_ne_zero before)
      exact acyclic target (Relation.TransGen.tail' way leads)
    refine ⟨?_, ?_⟩
    · intro knot
      rw [State.visitCount_enter, fresh]
      split
      · exact Nat.le_refl 1
      · exact visited.once knot
    · intro knot
      rw [State.visitCount_enter]
      split
      next same => exact fun _ => same ▸ .refl
      next => exact fun before => (visited.behind knot before).tail leads

theorem State.opening_visitedOnce (story : Story) (knot : String) :
    (State.opening knot).VisitedOnce story where
  once := by
    intro other
    rw [visitCount_opening]
    split <;> omega
  behind := by
    intro other before
    rw [visitCount_opening] at before
    split at before
    next same => exact same ▸ .refl
    next => cases before

namespace Stage

variable {stage : Stage} {state : State} {inline : Option Item}

/-- The number of items left to a session. -/
noncomputable def itemsLeft (stage : Stage) (state : State) : Nat :=
  stage.story.ahead stage.story.Leads (fun _ => 1) state.cursor.knot
    (stage.story.upcoming state.onward)

theorem itemsLeft_of_idle (idle : state.pending = none) :
    stage.itemsLeft state = stage.ahead stage.story.Leads (fun _ => 1) ⟨state, none⟩ := by
  rw [itemsLeft, State.onward_of_idle idle]
  rfl

@[simp] theorem onward_present (state : State) (inline : Option Item) (choice : Choice) :
    (present state inline choice).onward = (past state inline).cursor := by
  cases inline <;> rfl

/-- A dispatch that shows something uses an item up. -/
theorem Halts.itemsLeft {moment : Moment} {after : State} {event : Event}
    (halts : stage.Halts moment (after, .ok event)) (placed : moment.InPlace stage.story) :
    stage.itemsLeft after + [event].countP (· ≠ .theEnd) ≤
      stage.ahead stage.story.Leads (fun _ => 1) moment := by
  obtain ⟨state, inline⟩ := moment
  obtain ⟨_, _, positive, _⟩ := placed.state.cursor
  have used : ∀ {item : Item} {after : State}, stage.next? state inline = some item →
      after.cursor.knot = state.cursor.knot → after.onward = (past state inline).cursor →
      stage.itemsLeft after + 1 ≤
        stage.ahead stage.story.Leads (fun _ => 1) ⟨state, inline⟩ := by
    intro item after next sameKnot behind
    rw [Stage.itemsLeft, sameKnot, behind, Stage.ahead, content_of_next positive next]
    simp only [Story.ahead, List.map_cons, List.sum_cons]
    omega
  cases halts.rules with
  | theEnd nothing =>
      cases inline with
      | some _ => cases nothing
      | none => simp [itemsLeft_of_idle placed.idle]
  | say next action =>
      have idle : (past state inline).pending = none := (pending_past _ _).trans placed.idle
      exact used next (knot_past _ _) (State.onward_of_idle idle)
  | @ask item choice next action =>
      have shown : [Event.ofChoice choice].countP (· ≠ .theEnd) = 1 := rfl
      rw [shown]
      exact used next rfl (onward_present _ _ _)

section acyclic

variable (acyclic : Acyclic stage.story.Leads)

include acyclic

theorem walkOn_itemsLeft {after : State} {event : Event} (placed : state.InPlace stage.story)
    (idle : state.pending = none) (shown : stage.walkOn state = (after, .ok event)) :
    stage.itemsLeft after + [event].countP (· ≠ .theEnd) ≤ stage.itemsLeft state := by
  have placedHere := placed.outset idle
  have rules := stage.walkOn_rules state
  rw [shown] at rules
  cases rules with
  | ended _ goes halts =>
      have onTheWay := goes.ahead acyclic (fun _ _ => .inl) Item.priced_one placedHere
      have atTheEnd := halts.itemsLeft (goes.inPlace placedHere)
      rw [itemsLeft_of_idle idle]
      omega

/-- To take an option brings no item back. -/
theorem answered_itemsLeft {after : State} {index : Value} {pending : Pending} {number : Nat}
    {option : ChoiceOption} {answer : Except Fault Unit} (placed : state.InPlace stage.story)
    (waiting : state.pending = some pending)
    (picked : picked? pending.choice index = some (number, option))
    (fulfilled : stage.fulfil (settle state pending number option) option = (after, answer)) :
    stage.itemsLeft after ≤ stage.itemsLeft state := by
  have idle := idle_of_fulfil fulfilled
  rw [itemsLeft, itemsLeft, State.onward_of_idle idle, State.onward_of_waiting waiting]
  rcases fulfil_cases fulfilled with ⟨bindings, rfl | ⟨target, towards, known, rfl⟩⟩
  · simp
  · obtain ⟨items, found⟩ := Option.isSome_iff_exists.mp known
    have offers := placed.offers waiting picked towards
    have entered := Story.ahead_of_edge (fun _ => 1) acyclic (.inr offers) found
      (stage.story.upcoming (pending.behind state.cursor))
    have arrived : stage.story.upcoming ⟨target, 1⟩ = items := Story.upcoming_start found
    simp only [State.enter, State.writeLog, arrived]
    omega

theorem play_itemsLeft {after : State} {cue : Cue} {event : Event}
    (placed : state.InPlace stage.story) (fresh : cue.repeats state = false)
    (shown : stage.play state cue = (after, .ok event)) :
    stage.itemsLeft after + [event].countP (· ≠ .theEnd) ≤ stage.itemsLeft state := by
  have rules := stage.play_rules state cue
  generalize stage.play state cue = outcome at rules shown
  cases rules with
  | again waiting => simp [Cue.repeats, waiting] at fresh
  | onward idle => exact walkOn_itemsLeft acyclic placed idle shown
  | answer commit =>
      cases commit with
      | idle => cases shown
      | refused => cases shown
      | failed => cases shown
      | taken waiting picked fulfilled =>
          obtain ⟨placedAfter, idle⟩ := answered_inPlace placed waiting picked fulfilled
          have answered := answered_itemsLeft acyclic placed waiting picked fulfilled
          have walked := walkOn_itemsLeft acyclic placedAfter idle shown
          omega

end acyclic

end Stage

/-- With few lines and choices among many events, the end is among the first of them. -/
theorem Event.theEnd_mem_take {events : List Event} {bound : Nat}
    (bounded : events.countP (· ≠ .theEnd) ≤ bound) (longer : bound < events.length) :
    .theEnd ∈ events.take (bound + 1) := by
  by_contra missing
  have noEnd : (events.take (bound + 1)).countP (· ≠ .theEnd) =
      (events.take (bound + 1)).length := by
    apply List.countP_eq_length.mpr
    intro event shown
    exact decide_eq_true fun same => missing (same ▸ shown)
  have fewer : (events.take (bound + 1)).countP (· ≠ .theEnd) ≤
      events.countP (· ≠ .theEnd) := (List.take_sublist _ _).countP_le
  rw [noEnd, List.length_take] at fewer
  omega

/-- A cue that brings news was played on and shows the news. -/
theorem Played.shown_of_news {played : Played} {event : Event}
    (news : played.news? = some event) :
    played.cue.repeats played.scene.state = false ∧
      played.outcome = (played.outcome.1, .ok event) := by
  unfold news? at news
  split at news
  · cases news
  next fresh =>
    refine ⟨Bool.eq_false_iff.mpr fresh, ?_⟩
    rcases outcome : played.outcome with ⟨after, fault | shown⟩
    · simp [outcome, Except.toOption] at news
    · rw [outcome] at news
      cases news
      rfl

namespace Scene

/-- In a run in which every cue brings news, no knot is visited twice and every line and choice
uses an item up. -/
theorem run_itemsLeft {stage : Stage} (acyclic : Acyclic stage.story.Leads) (cues : List Cue)
    (state : State) (placed : state.InPlace stage.story)
    (visited : state.VisitedOnce stage.story)
    (news : ∀ played ∈ (Scene.mk stage state).played (Deed.ofCues cues),
      ∃ event, played.news? = some event) :
    let events := ((Scene.mk stage state).played (Deed.ofCues cues)).filterMap Played.news?
    let last := ((Scene.mk stage state).run (Deed.ofCues cues)).state
    last.VisitedOnce stage.story ∧ events.length = cues.length ∧
      stage.itemsLeft last + events.countP (· ≠ .theEnd) ≤ stage.itemsLeft state := by
  induction cues generalizing state with
  | nil => exact ⟨visited, rfl, Nat.le_refl _⟩
  | cons cue cues inductionHypothesis =>
      let played : Played := ⟨⟨stage, state⟩, cue⟩
      obtain ⟨⟨event, first⟩, rest⟩ := List.forall_mem_cons.mp news
      change played.news? = some event at first
      obtain ⟨fresh, shown⟩ := Played.shown_of_news first
      have used := Stage.play_itemsLeft acyclic placed fresh shown
      have placedAfter : played.outcome.1.InPlace stage.story :=
        Stage.after_inPlace placed (.cue cue)
      have visitedAfter : played.outcome.1.VisitedOnce stage.story :=
        Stage.play_carried (Story.carries_visitedOnce acyclic) placed cue visited
      obtain ⟨visitedLast, length, usedLater⟩ :=
        inductionHypothesis played.outcome.1 placedAfter visitedAfter rest
      have begins : (Scene.mk stage state).played (Deed.ofCues (cue :: cues)) =
          played :: (Scene.mk stage played.outcome.1).played (Deed.ofCues cues) :=
        played_ofCues ..
      have goesOn : (Scene.mk stage state).run (Deed.ofCues (cue :: cues)) =
          (Scene.mk stage played.outcome.1).run (Deed.ofCues cues) := run_ofCues ..
      rw [begins, goesOn, List.filterMap_cons_some first]
      refine ⟨visitedLast, congrArg (· + 1) length, ?_⟩
      rw [List.countP_cons] at used ⊢
      rw [List.countP_nil] at used
      omega

/-- Let no knot lead back to itself by diverts and options, and take a run from a start in
which every call brings news: no call fails, and none shows a choice again that waits. Then no
knot is visited twice, there are at most as many lines and choices as items in the story, and
among one call more than that there is one that comes to the end. -/
theorem acyclic_sessions_end (stage : Stage) (acyclic : Acyclic stage.story.Leads)
    (knot : String) (state : State) (started : stage.start knot = .ok state) (cues : List Cue)
    (news : ∀ played ∈ (Scene.mk stage state).played (Deed.ofCues cues),
      ∃ event, played.news? = some event) :
    let events := ((Scene.mk stage state).played (Deed.ofCues cues)).filterMap Played.news?
    let last := ((Scene.mk stage state).run (Deed.ofCues cues)).state
    (∀ other, last.ledger.visitCount other ≤ 1) ∧
      events.countP (· ≠ .theEnd) ≤ stage.story.itemCount ∧
      (stage.story.itemCount < cues.length →
        .theEnd ∈ events.take (stage.story.itemCount + 1)) := by
  obtain ⟨known, rfl⟩ := Stage.start_eq_ok.mp started
  intro events last
  obtain ⟨items, found⟩ := Option.isSome_iff_exists.mp known
  obtain ⟨visited, length, used⟩ := run_itemsLeft acyclic cues _ (Stage.opening_inPlace known)
    (State.opening_visitedOnce stage.story knot) news
  change events.length = cues.length at length
  change stage.itemsLeft last + events.countP (· ≠ .theEnd) ≤ _ at used
  have opening : stage.itemsLeft (.opening knot) ≤ stage.story.itemCount := by
    have start : stage.story.upcoming ⟨knot, 1⟩ = items := Story.upcoming_start found
    have whole := Story.ahead_le_total (fun _ => 1) acyclic found (List.Sublist.refl items)
    rw [Story.total_one] at whole
    rw [Stage.itemsLeft, State.onward_of_idle rfl]
    simpa only [State.opening, start] using whole
  have bounded : events.countP (· ≠ .theEnd) ≤ stage.story.itemCount := by omega
  refine ⟨visited.once, bounded, ?_⟩
  intro longer
  exact Event.theEnd_mem_take bounded (by omega)

/-- Two items, the first of them a choice behind a condition, are both shown before the third
call comes to the end. -/
theorem acyclic_sessions_end_exactly :
    let choice : Choice := ⟨none, [.full "Go." (some "hall") none]⟩
    let stage := Stage.ofKnots
      [("start", [.unlessSet "mood" (.choice choice)]), ("hall", [.bare "Night falls."])]
    let cues : List Cue := [.advance, .commit (.int 1), .advance]
    let given := (Scene.mk stage (.opening "start")).played (Deed.ofCues cues)
    let last := ((Scene.mk stage (.opening "start")).run (Deed.ofCues cues)).state
    Acyclic stage.story.Leads ∧ stage.start "start" = .ok (.opening "start") ∧
      (∀ played ∈ given, ∃ event, played.news? = some event) ∧ stage.story.itemCount = 2 ∧
      given.filterMap Played.news? =
        [.choice none ["Go."], .line (.ofBody "Night falls."), .theEnd] ∧
      (∀ other, last.ledger.visitCount other ≤ 1) ∧
      .theEnd ∈ (given.filterMap Played.news?).take 3 := by
  intro choice stage cues given last
  have falls : ∀ entry ∈ stage.story.entries, ∀ target ∈ Story.targetsOf entry.2,
      (if target = "start" then 1 else 0) < if entry.1 = "start" then 1 else 0 := by
    decide +kernel
  have acyclic : Acyclic stage.story.Leads := Story.acyclic_of_falling _ falls
  have started : stage.start "start" = .ok (.opening "start") := rfl
  have news : ∀ played ∈ given, ∃ event, played.news? = some event := by
    intro played member
    have checked : given.all (fun played => played.news?.isSome) = true := by decide +kernel
    exact Option.isSome_iff_exists.mp (List.all_eq_true.mp checked played member)
  have count : stage.story.itemCount = 2 := rfl
  obtain ⟨once, _, ends⟩ := acyclic_sessions_end stage acyclic "start" _ started cues news
  refine ⟨acyclic, started, news, count, by decide +kernel, once, ?_⟩
  rw [count] at ends
  exact ends (by decide)

end Scene

end StoryGraph
