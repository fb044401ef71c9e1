import StoryGraph.Proofs.Resuming

/-!
Strict and lenient types. Types only matter at a test that asks for order where there is none: with
lenient types it is noted down and does not hold, with strict ones the call fails behind the
condition. Up to the first such test a call does the same in both, and what it leaves where it fails
is the state in which the other call notes the mismatch down and goes on. So calling again, as often
as the call fails at a mismatch, comes to the same event in the end.
-/

set_option autoImplicit false

namespace StoryGraph

def Notice.isMismatch : Notice → Bool
  | .typeMismatch _ _ => true
  | _ => false

def Fault.isMismatch : Fault → Bool
  | .typeMismatch _ _ => true
  | _ => false

/-- Test the same with types that are strict or not. -/
def Stage.withTypes (stage : Stage) (strictTypes : Bool) : Stage :=
  { stage with settings := { stage.settings with strictTypes } }

theorem Notice.clean_or_mismatch (noted : Option Notice) :
    (∀ notice ∈ noted.toList, notice.isMismatch = false) ∨
      ∃ name mismatch, noted = some (.typeMismatch name mismatch) := by
  cases noted with
  | none => exact .inl (List.forall_mem_nil _)
  | some notice =>
      cases notice with
      | typeMismatch name mismatch => exact .inr ⟨name, mismatch, rfl⟩
      | unknownOperator | unrecognizedItem =>
          left
          intro notice member
          cases List.mem_singleton.mp member
          rfl

/-- With strict types a test notes down the same, but for a mismatch. -/
@[simp] theorem Test.notice?_strict (test : Test) (value : Scalar) :
    test.notice? true value = (test.notice? false value).filter fun notice =>
      !notice.isMismatch := by
  unfold notice?
  cases test.operator.resolve with
  | error unknown => rfl
  | ok comparison =>
      dsimp only
      cases comparison.holds (.scalar value) test.operand <;> rfl

/-- With strict types a test comes to the same verdict, but for a mismatch. -/
@[simp] theorem Test.verdict_strict (test : Test) (value : Scalar) :
    test.verdict true value =
      match test.notice? false value with
      | some (.typeMismatch name mismatch) => .error (.typeMismatch name mismatch)
      | _ => test.verdict false value := by
  unfold verdict notice?
  cases test.operator.resolve with
  | error unknown => rfl
  | ok comparison =>
      dsimp only
      cases comparison.holds (.scalar value) test.operand <;> rfl

namespace Stage

variable {stage : Stage} {state twin : State} {inline : Option Item} {name : String}
  {mismatch : Mismatch}

@[simp] theorem strictTypes_withTypes (stage : Stage) (strictTypes : Bool) :
    (stage.withTypes strictTypes).settings.strictTypes = strictTypes := rfl

theorem Unopposed.withTypes (unopposed : stage.Unopposed) (strictTypes : Bool) :
    (stage.withTypes strictTypes).Unopposed := unopposed

theorem noted?_strict (stage : Stage) (state : State) (inline : Option Item) :
    (stage.withTypes true).noted? state inline =
      ((stage.withTypes false).noted? state inline).filter fun notice => !notice.isMismatch := by
  unfold noted?
  have sameNext : (stage.withTypes true).next? state inline =
      (stage.withTypes false).next? state inline := rfl
  rw [sameNext]
  cases ((stage.withTypes false).next? state inline).map Item.action with
  | none => rfl
  | some action =>
      cases action with
      | decide test body => simp
      | skip kind => rfl
      | say | ask | goTo | assign => rfl

theorem evaluate_strict {test : Test}
    (clean : ∀ notice ∈ (test.notice? false (state.read test.name)).toList,
      notice.isMismatch = false) :
    (stage.withTypes true).evaluate state test = (stage.withTypes false).evaluate state test := by
  have strictly := test.notice?_strict (state.read test.name)
  simp only [evaluate_eq, strictTypes_withTypes]
  cases noted : test.notice? false (state.read test.name) with
  | none =>
      rw [noted, Option.filter_none] at strictly
      simp only [strictly, Test.verdict_strict, noted]
  | some notice =>
      rw [noted] at clean strictly
      rw [Option.filter_some, clean notice (List.mem_singleton_self notice)] at strictly
      simp only [strictly]
      rfl

/-- Where no mismatch is noted down, strict and lenient types do the same. -/
theorem step_strict
    (clean : ∀ notice ∈ ((stage.withTypes false).noted? state inline).toList,
      notice.isMismatch = false) :
    (stage.withTypes true).step state inline = (stage.withTypes false).step state inline := by
  have sameStory : (stage.withTypes true).story = (stage.withTypes false).story := rfl
  apply step_congr sameStory
  · intro item test body next action
    rw [noted?_of_decide next action, ← read_past state inline] at clean
    exact evaluate_strict clean
  · exact fun _ _ _ _ => rfl

/-- At a mismatch a call with strict types fails behind the condition, and one with lenient types
notes it down there. -/
theorem step_at_mismatch (unopposed : stage.Unopposed)
    (noted : (stage.withTypes false).noted? state inline = some (.typeMismatch name mismatch)) :
    (stage.withTypes true).Halts ⟨state, inline⟩
        (past state inline, .error (.typeMismatch name mismatch)) ∧
      (stage.withTypes false).Moves ⟨state, inline⟩
        ⟨((stage.withTypes false).report (past state inline) (.typeMismatch name mismatch)).1,
          none⟩ := by
  constructor
  · rcases noted?_cases noted with ⟨item, test, body, next, action, tested⟩ | ⟨_, _, _, _, ⟨⟩⟩
    rw [strictTypes_withTypes, ← read_past state inline] at tested
    have strictly := test.notice?_strict ((past state inline).read test.name)
    rw [tested] at strictly
    have fails : (stage.withTypes true).evaluate (past state inline) test =
        (past state inline, .error (.typeMismatch name mismatch)) := by
      simp only [evaluate_eq, strictTypes_withTypes, strictly, Test.verdict_strict, tested]
      rfl
    have nextToo : (stage.withTypes true).next? state inline = some item := next
    have stepped := step_of_decide nextToo action
    rw [fails] at stepped
    exact stepped
  · rcases step_of_noted noted with stepped | ⟨_, _, _, _, _, ⟨⟩⟩
    obtain ⟨after, _, reported⟩ :=
      (unopposed.withTypes false).report_eq (past state inline) (.typeMismatch name mismatch)
    rw [reported] at stepped ⊢
    exact stepped

/-- How far a walk goes the same way with strict types as with lenient ones, by what the lenient
one notes down: all the way, or up to the first mismatch, behind which the strict one fails. -/
inductive GoesAlong (stage : Stage) (budget : Nat) (start : Moment) :
    List Notice → Outcome Event → Prop where
  | whole {noted} (clean : ∀ notice ∈ noted, notice.isMismatch = false) :
      GoesAlong stage budget start noted
        ((stage.withTypes false).walk budget start.state start.inline)
  | broken {earlier name mismatch later count moment}
      (clean : ∀ notice ∈ earlier, notice.isMismatch = false)
      (told : (stage.withTypes false).Told start.state moment.state earlier)
      (early : count < budget) (goes : (stage.withTypes false).Goes count start moment)
      (noted : (stage.withTypes false).noted? moment.state moment.inline =
        some (.typeMismatch name mismatch)) :
      GoesAlong stage budget start (earlier ++ .typeMismatch name mismatch :: later)
        (past moment.state moment.inline, .error (.typeMismatch name mismatch))

theorem GoesAlong.later {budget : Nat} {start next : Moment} {noted : List Notice}
    {strict : Outcome Event} (along : stage.GoesAlong budget next noted strict)
    (moves : (stage.withTypes false).Moves start next)
    (clean : ∀ notice ∈ ((stage.withTypes false).noted? start.state start.inline).toList,
      notice.isMismatch = false) :
    stage.GoesAlong (budget + 1) start
      (((stage.withTypes false).noted? start.state start.inline).toList ++ noted) strict := by
  cases along with
  | whole cleanLater =>
      rw [← walk_succ_of_moves moves]
      exact .whole (List.forall_mem_append.mpr ⟨clean, cleanLater⟩)
  | broken cleanLater told early goes noted =>
      rw [← List.append_assoc]
      exact .broken (List.forall_mem_append.mpr ⟨clean, cleanLater⟩) (moves.told.trans told)
        (Nat.succ_lt_succ early) (.next moves goes) noted

theorem walk_strict (unopposed : stage.Unopposed) (budget : Nat) (start : Moment) :
    ∃ noted,
      (stage.withTypes false).Told start.state
        ((stage.withTypes false).walk budget start.state start.inline).1 noted ∧
      stage.GoesAlong budget start noted
        ((stage.withTypes true).walk budget start.state start.inline) := by
  -- Both walks go on side by side for as long as no mismatch is noted down.
  induction budget generalizing start with
  | zero =>
      refine ⟨[], .nothing rfl rfl rfl, ?_⟩
      exact .whole (by simp)
  | succ budget inductionHypothesis =>
      rcases Notice.clean_or_mismatch
          ((stage.withTypes false).noted? start.state start.inline) with
        clean | ⟨name, mismatch, noted⟩
      · have alike := step_strict clean
        rcases (stage.withTypes false).moves_or_halts start with ⟨next, moves⟩ | ⟨outcome, halts⟩
        · have strictly : (stage.withTypes true).Moves start next := alike.trans moves
          obtain ⟨noted, told, along⟩ := inductionHypothesis next
          rw [walk_succ_of_moves moves, walk_succ_of_moves strictly]
          exact ⟨_, moves.told.trans told, along.later moves clean⟩
        · have strictly : (stage.withTypes true).Halts start outcome := alike.trans halts
          have along : stage.GoesAlong (budget + 1) start _ _ := .whole clean
          rw [walk_succ_of_halts halts] at along ⊢
          rw [walk_succ_of_halts strictly]
          exact ⟨_, halts.told, along⟩
      · obtain ⟨strictly, moves⟩ := step_at_mismatch unopposed noted
        have told := moves.told
        obtain ⟨later, toldLater⟩ := (stage.withTypes false).walk_told budget
          ((stage.withTypes false).report (past start.state start.inline)
            (.typeMismatch name mismatch)).1 none
        rw [walk_succ_of_moves moves, walk_succ_of_halts strictly]
        rw [noted] at told
        exact ⟨_, told.trans toldLater,
          .broken (List.forall_mem_nil _) (.nothing rfl rfl rfl) (Nat.succ_pos _) .start noted⟩

/-- In the course of a call something is noted down behind an item that is dispatched. -/
inductive NotesBehind (stage : Stage) (state : State) (cue : Cue) (notice : Notice) :
    State → Prop where
  | intro {outset count moment} (walks : stage.Outset state cue outset)
      (early : count < stage.settings.maxSteps) (goes : stage.Goes count ⟨outset, none⟩ moment)
      (noted : stage.Moves moment
        ⟨(stage.report (past moment.state moment.inline) notice).1, none⟩) :
      NotesBehind stage state cue notice (past moment.state moment.inline)

theorem echoes_strict (same : state.SameCourse twin) (noted told : List Notice)
    (echoed : told = noted.filter fun notice => !notice.isMismatch) :
    told ++ ((stage.withTypes true).noted? twin inline).toList =
      (noted ++ ((stage.withTypes false).noted? state inline).toList).filter fun notice =>
        !notice.isMismatch := by
  rw [List.filter_append, echoed, noted?_strict, noted?_congr same]
  cases (stage.withTypes false).noted? state inline with
  | none => rfl
  | some notice => cases notice <;> rfl

theorem resumes_strict (unopposed : stage.Unopposed) (start : State) :
    (stage.withTypes false).Resumes (stage.withTypes true) (fun _ fault => fault.isMismatch = true)
      ((stage.withTypes false).Abreast (stage.withTypes true) start fun noted told =>
        told = noted.filter fun notice => !notice.isMismatch) where
  budget := rfl
  moves := by
    intro ⟨state, inline⟩ next twin idle abreast moves
    have sameNoted : (stage.withTypes false).noted? twin inline =
        (stage.withTypes false).noted? state inline := noted?_congr abreast.course
    rcases Notice.clean_or_mismatch ((stage.withTypes false).noted? state inline) with
      clean | ⟨name, mismatch, noted⟩
    · rw [← sameNoted] at clean
      obtain ⟨twinNext, twinMoves, abreastNext⟩ := abreast.moves (unopposed.withTypes false) idle
        (step_strict clean) (echoes_strict abreast.course) moves
      exact ⟨twinNext, .onward twinMoves, abreastNext⟩
    · obtain ⟨_, toNext⟩ := step_at_mismatch unopposed noted
      obtain ⟨strictly, _⟩ := step_at_mismatch unopposed (sameNoted.trans noted)
      cases moves.unique toNext
      have idleToo : (past twin inline).pending = none := by
        rw [pending_past, abreast.course.pending, idle]
      obtain ⟨earlier, told, notedSince, toldSince, echoed⟩ := abreast.notices
      have notedNow := notedSince.trans toNext.told
      refine ⟨past twin inline, .behind strictly idleToo rfl, ?_, _, _, notedNow,
        toldSince.past inline, ?_⟩
      · exact (report_sameCourse ..).symm.trans (abreast.course.past inline)
      · rw [noted, List.filter_append, ← echoed]
        exact (List.append_nil told).symm
  shows := by
    intro ⟨state, inline⟩ final event twin idle abreast halts
    have sameNoted : (stage.withTypes false).noted? twin inline =
        (stage.withTypes false).noted? state inline := noted?_congr abreast.course
    rcases Notice.clean_or_mismatch ((stage.withTypes false).noted? state inline) with
      clean | ⟨name, mismatch, noted⟩
    · rw [← sameNoted] at clean
      exact abreast.shows (unopposed.withTypes false) idle (step_strict clean)
        (echoes_strict abreast.course) halts
    · obtain ⟨_, toNext⟩ := step_at_mismatch unopposed noted
      exact absurd halts toNext.not_halts

/-- Make one call with lenient types and with strict ones, where the listener refuses nothing. If
the lenient call notes no mismatch down, the strict one does the same. Else it fails at the first
mismatch, and leaves the state behind the condition, without the notice that the lenient call
makes there before it goes on. If the lenient call shows an event, the strict one does too when it
is made again as often as it fails at a mismatch, and then all is the same but for the notices of
mismatches. -/
theorem strict_types_agree_up_to_mismatch (stage : Stage) (unopposed : stage.Unopposed)
    (state : State) (cue : Cue) :
    let lenient := stage.withTypes false
    let strict := stage.withTypes true
    ∃ noted, lenient.Told state (lenient.play state cue).1 noted ∧
      ((∀ notice ∈ noted, notice.isMismatch = false) ∧
          strict.play state cue = lenient.play state cue ∨
        ∃ earlier name mismatch later left,
          noted = earlier ++ .typeMismatch name mismatch :: later ∧
          (∀ notice ∈ earlier, notice.isMismatch = false) ∧
          strict.play state cue = (left, .error (.typeMismatch name mismatch)) ∧
          (Fault.typeMismatch name mismatch).message =
            s!"Condition on '{name}': {(Notice.typeMismatch name mismatch).message}" ∧
          lenient.NotesBehind state cue (.typeMismatch name mismatch) left ∧
          lenient.Told state left earlier) ∧
      ∀ final event, lenient.play state cue = (final, .ok event) → ∃ last,
        strict.Retries (fun _ fault => fault.isMismatch = true) (strict.play state cue)
          (last, .ok event) ∧
        final.SameCourse last ∧
        strict.Told state last (noted.filter fun notice => !notice.isMismatch) := by
  intro lenient strict
  have again : ∀ noted final event, lenient.Told state (lenient.play state cue).1 noted →
      lenient.play state cue = (final, .ok event) → ∃ last,
        strict.Retries (fun _ fault => fault.isMismatch = true) (strict.play state cue)
          (last, .ok event) ∧
        final.SameCourse last ∧
        strict.Told state last (noted.filter fun notice => !notice.isMismatch) := by
    intro noted final event told shown
    obtain ⟨last, abreast, retries⟩ := (resumes_strict unopposed state).play rfl
      (fun _ told toldToo => ⟨.refl _, [], [], told, toldToo, rfl⟩) shown
    obtain ⟨_, _, toldFinal, toldLast, rfl⟩ := abreast.notices
    rw [shown] at told
    rw [told.unique toldFinal]
    exact ⟨last, retries, abreast.course, toldLast⟩
  rcases lenient.outset_or_still state cue with ⟨outset, walks⟩ | still
  · have walksToo : strict.Outset state cue outset := walks.congr rfl
    obtain ⟨noted, told, along⟩ : ∃ noted,
        lenient.Told outset (lenient.walkOn outset).1 noted ∧
          stage.GoesAlong stage.settings.maxSteps ⟨outset, none⟩ noted (strict.walkOn outset) :=
      walk_strict unopposed stage.settings.maxSteps ⟨outset, none⟩
    have toldPlay : lenient.Told state (lenient.play state cue).1 noted := by
      rw [walks.play]
      exact walks.nothing_told.trans told
    refine ⟨noted, toldPlay, ?_, fun final event => again noted final event toldPlay⟩
    rw [← walksToo.play] at along
    generalize strict.play state cue = outcome at along ⊢
    cases along with
    | whole clean =>
        rw [walks.play]
        exact .inl ⟨clean, rfl⟩
    | broken clean toldBefore early goes noted =>
        right
        have notes := (step_at_mismatch unopposed noted).2
        exact ⟨_, _, _, _, _, rfl, clean, rfl, rfl, .intro walks early goes notes,
          (walks.nothing_told.trans toldBefore).past _⟩
  · obtain ⟨played, _⟩ := still strict rfl
    have told := (still lenient rfl).2
    exact ⟨[], told, .inl ⟨List.forall_mem_nil _, played⟩, fun final event =>
      again [] final event told⟩

/-- Behind an answer two tests ask for order against nil, the second one inline. -/
theorem strict_types_agree_up_to_mismatch_twice :
    let rich : Test := ⟨"gold", .known .greater, .int 1⟩
    let stage := ofKnots [("start", [.choice ⟨none, [.bare "On."]⟩,
      .condition rich (.bare "You buy the inn."),
      .unlessSet "mood" (.condition rich (.bare "You buy a horse.")), .bare "Night falls."])]
    let lenient := stage.withTypes false
    let strict := stage.withTypes true
    let state := (stage.play (.opening "start") .advance).1
    let final := (lenient.play state (.commit (.int 1))).1
    let mismatch : Mismatch := ⟨.nil, .greater, .int 1⟩
    final.notices.toList = [.typeMismatch "gold" mismatch, .typeMismatch "gold" mismatch] ∧
      strict.play state (.commit (.int 1)) = ((strict.play state (.commit (.int 1))).1,
        .error (.typeMismatch "gold" mismatch)) ∧
      (strict.play state (.commit (.int 1))).1.cursor = ⟨"start", 3⟩ ∧
      ∃ last, strict.Retries (fun _ fault => fault.isMismatch = true)
          (strict.play state (.commit (.int 1))) (last, .ok (.line (.ofBody "Night falls."))) ∧
        final.SameCourse last ∧ strict.Told state last [] := by
  intro rich stage lenient strict state final mismatch
  obtain ⟨noted, told, _, again⟩ :=
    strict_types_agree_up_to_mismatch stage nofun state (.commit (.int 1))
  have recorded : noted = [.typeMismatch "gold" mismatch, .typeMismatch "gold" mismatch] :=
    told.recorded.symm
  subst recorded
  exact ⟨rfl, rfl, rfl, again final _ rfl⟩

end Stage

end StoryGraph
