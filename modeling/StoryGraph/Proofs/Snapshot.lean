import StoryGraph.Story.Library

/-!
A library is a snapshot of the first content that could be read. Between two visits its file may
have been written, removed or written again, so every visit comes with the files as they are then.
Up to the first visit at which a story can be read, each one fails as reading the file fails then,
and leaves the library as it was made. That visit and all later ones are answered from that story,
whatever becomes of the file, and also if a knot was asked for that the story does not have.
-/

set_option autoImplicit false

namespace StoryGraph

/-- What can be asked of a library. -/
inductive Inquiry where
  | story
  | names
  | knot (name : String)

/-- What a library gives back. -/
inductive Reply where
  | story (story : Story)
  | names (names : List String)
  | knot (items : List Item)
  | noKnot (name : String)

/-- A request to a library, and the files as they are when it is made. -/
structure Visit where
  files : Files
  inquiry : Inquiry

/-- A reply to an inquiry tells what a story holds. -/
inductive Reply.Tells (story : Story) : Inquiry → Reply → Prop where
  | story : Tells story .story (.story story)
  | names {names} (increasing : names.Pairwise (· < ·))
      (all : ∀ name, name ∈ names ↔ story.contains name = true) :
      Tells story .names (.names names)
  | knot {name items} (found : story.get? name = some items) :
      Tells story (.knot name) (.knot items)
  | noKnot {name} (missing : story.contains name = false) :
      Tells story (.knot name) (.noKnot name)

/-- The first story that could be read from a file at a row of visits. -/
def Path.firstRead? (path : Path) (visits : List Visit) : Option Story :=
  visits.findSome? fun visit => (Story.load visit.files path).toOption

namespace Library

/-- Put an inquiry to a library. -/
def ask (library : Library) (visit : Visit) : Library × Except LoadFault Reply :=
  match visit.inquiry with
  | .story =>
      let (library, story) := library.story visit.files
      (library, story.map .story)
  | .names =>
      let (library, names) := library.names visit.files
      (library, names.map .names)
  | .knot name =>
      let (library, found) := library.knot visit.files name
      (library, found.map fun items? =>
        match items? with
        | some items => .knot items
        | none => .noKnot name)

/-- The library behind a row of visits. -/
def after (library : Library) (visits : List Visit) : Library :=
  visits.foldl (fun library visit => (library.ask visit).1) library

variable {library next : Library} {visit : Visit}

/-- Whatever is asked, a library first sees to its story. -/
theorem ask_of_story {story : Story} (read : library.story visit.files = (next, .ok story)) :
    ∃ reply, library.ask visit = (next, .ok reply) ∧ reply.Tells story visit.inquiry := by
  obtain ⟨files, inquiry⟩ := visit
  cases inquiry with
  | story => exact ⟨_, by simp only [ask, read, Except.map], .story⟩
  | names =>
      refine ⟨.names story.orderedKeys, by simp only [ask, names, read, Except.map], ?_⟩
      exact .names story.orderedKeys_increasing fun name => Table.mem_orderedKeys
  | knot name =>
      cases found : story.get? name with
      | some items =>
          exact ⟨.knot items, by simp only [ask, knot, read, found, Except.map], .knot found⟩
      | none =>
          refine ⟨.noKnot name, by simp only [ask, knot, read, found, Except.map], .noKnot ?_⟩
          rw [Table.contains, found, Option.isSome_none]

theorem ask_of_fault {fault : LoadFault}
    (failed : library.story visit.files = (next, .error fault)) :
    library.ask visit = (next, .error fault) := by
  obtain ⟨files, inquiry⟩ := visit
  cases inquiry <;> simp only [ask, names, knot, failed, Except.map]

section story

variable {path : Path} {files : Files}

@[simp] theorem story_of_held (path : Path) (story : Story) (files : Files) :
    (Library.mk path (some story)).story files = (⟨path, some story⟩, .ok story) := rfl

@[simp] theorem story_of_load {story : Story} (loaded : Story.load files path = .ok story) :
    (Library.mk path none).story files = (⟨path, some story⟩, .ok story) := by
  simp only [Library.story, loaded]

@[simp] theorem fault_of_load {fault : LoadFault} (failed : Story.load files path = .error fault) :
    (Library.mk path none).story files = (⟨path, none⟩, .error fault) := by
  simp only [Library.story, failed]

end story

/-- A visit keeps the story that is held, and takes the one that can be read if there is none. -/
@[simp] theorem state_of_ask (library : Library) (visit : Visit) :
    (library.ask visit).1 =
      ⟨library.path, library.held.or (Story.load visit.files library.path).toOption⟩ := by
  obtain ⟨path, held⟩ := library
  cases held with
  | some story =>
      obtain ⟨_, told, _⟩ := ask_of_story (story_of_held path story visit.files)
      exact congrArg Prod.fst told
  | none =>
      cases loaded : Story.load visit.files path with
      | ok story =>
          obtain ⟨_, told, _⟩ := ask_of_story (story_of_load loaded)
          exact congrArg Prod.fst told
      | error fault => exact congrArg Prod.fst (ask_of_fault (fault_of_load loaded))

theorem after_eq (library : Library) (visits : List Visit) :
    library.after visits =
      ⟨library.path, library.held.or (library.path.firstRead? visits)⟩ := by
  induction visits generalizing library with
  | nil => simp [after, Path.firstRead?]
  | cons visit later inductionHypothesis =>
      have begins : library.after (visit :: later) = (library.ask visit).1.after later := rfl
      rw [begins, inductionHypothesis, state_of_ask, Option.or_assoc]
      simp only [Path.firstRead?, List.findSome?_cons]
      cases (Story.load visit.files library.path).toOption <;> rfl

/-- However the files change between visits to a library: as long as no story could be read, this
visit's included, the library is as it was made, and this visit fails as reading fails now. From
the first visit on at which a story could be read, the library holds that story, and each visit,
that first one included, is told what that story holds. -/
theorem snapshot_of_first_read (path : Path) (earlier : List Visit) (visit : Visit) :
    let library := (ofPath path).after earlier
    let (next, answer) := library.ask visit
    (path.firstRead? (earlier ++ [visit]) = none →
      library = ofPath path ∧ next = ofPath path ∧
        ∃ fault, Story.load visit.files path = .error fault ∧ answer = .error fault) ∧
    ∀ story, path.firstRead? (earlier ++ [visit]) = some story →
      next = ⟨path, some story⟩ ∧
        ∃ reply, answer = .ok reply ∧ reply.Tells story visit.inquiry := by
  intro library
  have made : library = ⟨path, path.firstRead? earlier⟩ := by
    rw [show library = _ from after_eq (ofPath path) earlier]
    rfl
  have grown : path.firstRead? (earlier ++ [visit]) =
      (path.firstRead? earlier).or (Story.load visit.files path).toOption := by
    simp only [Path.firstRead?, List.findSome?_append, List.findSome?_singleton]
  rw [made, grown]
  cases path.firstRead? earlier with
  | some story =>
      obtain ⟨reply, told, tells⟩ := ask_of_story (story_of_held path story visit.files)
      rw [told, Option.some_or]
      refine ⟨nofun, ?_⟩
      rintro _ ⟨⟩
      exact ⟨rfl, reply, rfl, tells⟩
  | none =>
      rw [Option.none_or]
      cases loaded : Story.load visit.files path with
      | ok story =>
          obtain ⟨reply, told, tells⟩ := ask_of_story (story_of_load loaded)
          rw [told]
          refine ⟨nofun, ?_⟩
          rintro _ ⟨⟩
          exact ⟨rfl, reply, rfl, tells⟩
      | error fault =>
          rw [ask_of_fault (fault_of_load loaded)]
          exact ⟨fun _ => ⟨rfl, rfl, fault, rfl, rfl⟩, nofun⟩

/-- A file is missing, then broken, then holds a story, and is then removed. Asking for a knot that
the story does not have takes the story nevertheless. -/
theorem snapshot_of_first_read_behind_changes :
    let path : Path := ⟨"", ["tale.json"]⟩
    let holding (text : String) : Files :=
      ⟨[(⟨.above 0, ["tale.json"]⟩, .file text.toUTF8.toList)]⟩
    let read := holding "\x7b\"attic\": []\x7d"
    let missed : List Visit := [⟨.empty, .story⟩, ⟨holding "\x7b", .names⟩]
    let taken : List Visit := missed ++ [⟨read, .knot "cellar"⟩]
    ((ofPath path).after missed = ofPath path ∧
      (((ofPath path).after missed).ask ⟨.empty, .names⟩).2 = .error (.notFound path)) ∧
      (((ofPath path).after missed).ask ⟨read, .knot "cellar"⟩).2 = .ok (.noKnot "cellar") ∧
      (((ofPath path).after taken).ask ⟨.empty, .knot "attic"⟩).2 = .ok (.knot []) := by
  intro path holding read missed taken
  refine ⟨?_, ?_, ?_⟩
  · have unread : path.firstRead? (missed ++ [⟨.empty, .names⟩]) = none := by
      rw [← Option.isNone_iff_eq_none]
      decide +kernel
    obtain ⟨untouched, _, fault, failed, answered⟩ :=
      (snapshot_of_first_read path missed ⟨.empty, .names⟩).1 unread
    have told : (match Story.load .empty path with
        | .error fault => some fault
        | .ok _ => none) = some (.notFound path) := by decide +kernel
    rw [failed] at told
    cases told
    exact ⟨untouched, answered⟩
  · have first : (path.firstRead? taken).map (fun story => story.contains "cellar") =
        some false := by decide +kernel
    obtain ⟨story, first, cellar⟩ := Option.map_eq_some_iff.mp first
    obtain ⟨_, _, answered, tells⟩ :=
      (snapshot_of_first_read path missed ⟨read, .knot "cellar"⟩).2 story first
    cases tells with
    | knot found =>
        rw [Table.contains, found] at cellar
        cases cellar
    | noKnot => exact answered
  · have first : (path.firstRead? (taken ++ [⟨.empty, .knot "attic"⟩])).map (fun story =>
        (story.get? "attic").map List.length) = some (some 0) := by decide +kernel
    obtain ⟨story, first, attic⟩ := Option.map_eq_some_iff.mp first
    obtain ⟨_, _, answered, tells⟩ :=
      (snapshot_of_first_read path taken ⟨.empty, .knot "attic"⟩).2 story first
    cases tells with
    | knot found =>
        rw [found, Option.map_some, Option.some_inj, List.length_eq_zero_iff] at attic
        rw [attic] at answered
        exact answered
    | noKnot missing =>
        rw [Option.map_eq_some_iff] at attic
        obtain ⟨_, found, _⟩ := attic
        rw [Table.contains, found] at missing
        cases missing

end Library

end StoryGraph
