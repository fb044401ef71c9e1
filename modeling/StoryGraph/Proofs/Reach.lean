import StoryGraph.Proofs.Graph
import StoryGraph.Proofs.SideBySide

/-!
What a session reads of its story. It only ever asks for the knot that it is in and for the
targets of diverts and options there, so it stays within the knots that the first one reaches,
whatever is asked of it. A story that has the same items for these names, or misses the same of
them, therefore gives the same responses and leads to the same states, also where a target is
missing.
-/

set_option autoImplicit false

namespace StoryGraph

/-- The session is among some knots and has visited no others. -/
structure State.Within (names : String → Prop) (state : State) : Prop where
  here : names state.cursor.knot
  visited : ∀ knot, 0 < state.ledger.visitCount knot → names knot

/-- Some names are closed in a story: what a knot among them leads to is among them. -/
def Story.Closed (story : Story) (names : String → Prop) : Prop :=
  ∀ knot target, names knot → story.Leads knot target → names target

theorem Story.reaches_closed (story : Story) (knot : String) :
    story.Closed (story.Reaches knot) := fun _ _ reached leads => reached.tail leads

theorem State.Within.stay {names : String → Prop} {before after : State}
    (within : before.Within names) (sameKnot : after.cursor.knot = before.cursor.knot)
    (sameVisits : after.ledger.visits = before.ledger.visits) : after.Within names where
  here := by
    rw [sameKnot]
    exact within.here
  visited := by
    intro knot
    rw [Ledger.visitCount_congr sameVisits]
    exact within.visited knot

theorem State.Within.enter {names : String → Prop} {state : State} {target : String}
    (within : state.Within names) (among : names target) :
    (state.enter target).Within names where
  here := among
  visited := by
    intro knot
    rw [State.visitCount_enter]
    split
    next same => exact fun _ => same ▸ among
    next => exact within.visited knot

theorem Story.Closed.carries {story : Story} {names : String → Prop}
    (closed : story.Closed names) : story.Carries (State.Within names) where
  stay := fun sameKnot sameVisits within => within.stay sameKnot sameVisits
  enter := fun leads _ within => within.enter (closed _ _ within.here leads)

theorem State.opening_within {names : String → Prop} {knot : String} (among : names knot) :
    (State.opening knot).Within names where
  here := among
  visited := by
    intro other before
    rw [visitCount_opening] at before
    split at before
    next same => exact same ▸ among
    next => cases before

/-- What a session has in common with the one over another story that agrees with it on some names:
everything, as long as it stays among these. -/
def Likeness.within (story : Story) (names : String → Prop) : Likeness where
  Related state twin := twin = state ∧ state.InPlace story ∧ state.Within names
  Knows := names
  Tells notice twinNotice := twinNotice = notice

namespace Stage

/-- The stage with another story. -/
def withStory (stage : Stage) (other : Story) : Stage := { stage with story := other }

section withStory

variable {stage : Stage} {other : Story} {names : String → Prop}
  (same : ∀ name, names name → other.get? name = stage.story.get? name)

include same

theorem contains_withStory {name : String} (among : names name) :
    other.contains name = stage.story.contains name := by
  rw [Table.contains, Table.contains, same name among]

theorem hasEnded_withStory {state : State} (within : state.Within names) :
    (stage.withStory other).hasEnded state = stage.hasEnded state := by
  simp only [hasEnded, withStory, same _ within.here]

variable (closed : stage.story.Closed names)

include closed

theorem sideBySide_withStory :
    (Likeness.within stage.story names).SideBySide stage (stage.withStory other) where
  settings := rfl
  respelled := fun item => .refl item.action
  told := fun _ => rfl
  knows := contains_withStory same
  weaken := id
  read := by
    rintro _ state name ⟨rfl, _⟩ _
    rfl
  report := by
    rintro _ state _ notice ⟨rfl, placed, within⟩ rfl
    have course := stage.report_sameCourse state notice
    have withinAfter := within.stay (congrArg Cursor.knot course.cursor)
      (congrArg Ledger.visits course.ledger)
    exact .of_related ⟨rfl, placed.of_sameCourse course, withinAfter⟩ id rfl
  write := by
    rintro _ state name value ⟨rfl, placed, within⟩
    exact ⟨rfl, placed.setBindings _, within.stay rfl rfl⟩
  enter := by
    rintro _ state target ⟨rfl, placed, within⟩ idle among known
    exact ⟨rfl, placed.enter idle known, within.enter among⟩
  idle := by
    rintro _ state ⟨rfl, _⟩ idle
    exact idle
  waiting := by
    rintro _ state pending ⟨rfl, placed, within⟩ waiting
    refine ⟨pending, waiting, .refl _, rfl, ?_⟩
    intro index number option twinOption picked pickedToo
    cases picked.symm.trans pickedToo
    have withinSettled : (settle state pending number option).Within names := by
      apply within.stay
      · simp
      · rw [settle_ledger]
        rfl
    refine ⟨⟨rfl, settle_inPlace placed waiting picked, withinSettled⟩, ?_⟩
    intro target towards
    exact closed _ _ within.here (.inr (placed.offers waiting picked towards))

/-- Sessions over stories that agree on the names among which they stay go in step. -/
theorem inStep_withStory :
    (Likeness.within stage.story names).InStep stage (stage.withStory other)
      (Moment.InPlace stage.story) where
  toSideBySide := sideBySide_withStory same closed
  cursor := by
    rintro _ state ⟨rfl, _⟩
    rfl
  here := by
    rintro _ state ⟨rfl, _, within⟩
    simp only [withStory, Story.itemAt?, same _ within.here]
    exact Option.map_id_apply.symm
  past := by
    rintro _ state inline item ⟨rfl, _, within⟩ placed next
    have withinPast : (past state inline).Within names := by
      cases inline <;> exact within.stay rfl rfl
    have samePast : past state (inline.map id) = past state inline := by
      rw [Option.map_id_apply]
    exact ⟨samePast, placed.past next, withinPast⟩
  asks := by
    rintro _ state inline item choice twinChoice ⟨rfl, _, within⟩ placed next action spelled
    cases action.symm.trans spelled
    cases Item.eq_choice_of_action action
    have samePresent : present state (inline.map id) choice = present state inline choice := by
      rw [Option.map_id_apply]
    exact ⟨samePresent, placed.present next, within.stay rfl rfl⟩
  goesTo := by
    rintro _ state inline item target ⟨rfl, _, within⟩ placed next action
    have layer := mem_layersAt_of_next placed next
    rw [Item.eq_divert_of_action action] at layer
    exact closed _ _ within.here (.inl layer)
  decides := fun _ _ _ _ => trivial

theorem responses_withStory (requests : List Request) {state : State}
    (placed : state.InPlace stage.story) (within : state.Within names) :
    (stage.withStory other).responses state requests = stage.responses state requests := by
  have related : (Likeness.within stage.story names).Related state state := ⟨rfl, placed, within⟩
  have shared : ∀ request ∈ requests,
      (Likeness.within stage.story names).Shares stage (stage.withStory other) request := by
    intro request _
    apply Likeness.shares (fun _ => trivial)
    · rintro _ state ⟨rfl, _⟩
      rfl
    · rintro _ state _ ⟨rfl, _, within⟩
      exact hasEnded_withStory same within
  have matched := (inStep_withStory same closed).responses_match related shared
    (fun _ dispatches => dispatches.inPlace placed) id
  symm
  rw [← List.forall₂_eq_eq_eq]
  exact matched.imp fun _ _ same => (Prod.ext same.alike.states.1 same.answers).symm

end withStory

/-- Let another story agree with a stage's on every name that a knot reaches. From that knot
the session starts over either or over neither, and any row of requests gets the same responses
and leads to the same states. In every state of its sessions the knot that it is in, and every
knot that was visited, is among these names. -/
theorem sessions_read_reached_knots (stage : Stage) (other : Story) (knot : String)
    (same : ∀ name, stage.story.Reaches knot name → other.get? name = stage.story.get? name) :
    (stage.withStory other).start knot = stage.start knot ∧
      (∀ state, stage.start knot = .ok state → ∀ requests,
        (stage.withStory other).responses state requests = stage.responses state requests) ∧
      ∀ state, stage.Reachable knot state →
        stage.story.Reaches knot state.cursor.knot ∧
          ∀ name, 0 < state.ledger.visitCount name → stage.story.Reaches knot name := by
  have closed := stage.story.reaches_closed knot
  have opening : (State.opening knot).Within (stage.story.Reaches knot) :=
    State.opening_within .refl
  refine ⟨?_, ?_, ?_⟩
  · unfold start
    rw [withStory, contains_withStory same .refl]
  · intro state started requests
    obtain ⟨known, rfl⟩ := start_eq_ok.mp started
    exact responses_withStory same closed requests (opening_inPlace known) opening
  · intro state reachable
    have within := reachable.carried closed.carries opening
    exact ⟨within.here, within.visited⟩

/-- A knot that nothing leads to can be removed, while an option leads to a divert whose target
is missing in both stories. -/
theorem sessions_read_reached_knots_without_cellar :
    let choice : Choice := ⟨none, [.full "Go." (some "hall") none]⟩
    let stage := ofKnots [("start", [.unlessSet "mood" (.choice choice)]),
      ("hall", [.divert "nowhere"]), ("cellar", [.bare "It is dark."])]
    let other := stage.story.erase "cellar"
    let requests : List Request := [.call (.cue .advance), .call (.cue (.commit (.int 1))),
      .visits "hall", .visits "cellar", .ended]
    (∀ name, stage.story.Reaches "start" name → other.get? name = stage.story.get? name) ∧
      other.contains "cellar" = false ∧ stage.story.contains "cellar" = true ∧
      (stage.responses (.opening "start") requests).map Prod.snd =
        [.ok (.event (.choice none ["Go."])), .error (.unknownDivert "nowhere"), .ok (.count 1),
          .ok (.count 0), .ok (.truth false)] ∧
      (stage.withStory other).responses (.opening "start") requests =
        stage.responses (.opening "start") requests := by
  intro choice stage other requests
  have targets : ∀ entry ∈ stage.story.entries, ∀ target ∈ Story.targetsOf entry.2,
      target ≠ "cellar" := by decide +kernel
  have same : ∀ name, stage.story.Reaches "start" name →
      other.get? name = stage.story.get? name := by
    intro name way
    have apart : name ≠ "cellar" := by
      rcases way.cases_tail with rfl | ⟨knot, _, leads⟩
      · decide
      · obtain ⟨items, member, among⟩ := Story.exists_entry_of_leads leads
        exact targets _ member name among
    rw [Table.get?_erase, if_neg apart]
  have started : stage.start "start" = .ok (.opening "start") := rfl
  refine ⟨same, rfl, rfl, rfl, ?_⟩
  exact (stage.sessions_read_reached_knots other "start" same).2.1 _ started requests

end Stage

end StoryGraph
