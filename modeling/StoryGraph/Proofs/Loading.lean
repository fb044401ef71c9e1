import StoryGraph.Proofs.Encoding
import StoryGraph.Proofs.Grammar
import StoryGraph.Proofs.LongNumerals
import StoryGraph.Story.Library

/-!
Stories from files. A story is what the document in a file writes. Where there is none, the fault
says why, and for most reasons it is told as an error of the data: the file cannot be read, it
holds a text that is no document, or a document that writes no story. Other reasons get away from
that: octets that write no text, a text with a whole number that is too long, and a name that no
file can have.
-/

set_option autoImplicit false

namespace StoryGraph

/-- A value writes a story: it is an object that writes the knots. -/
def Value.WritesStory (value : Value) (story : Story) : Prop :=
  ∃ raw : Table Value, value = .ofTable raw ∧ List.Forall₂ WritesKnot raw.entries story.entries

namespace Files

/-- The file at a path holds a text, with its line ends unified. -/
def HoldsText (files : Files) (path : Path) (text : List Char) : Prop :=
  ∃ characters, files.read path = .ok (characters.flatMap String.utf8EncodeChar) ∧
    text = Text.unifyLineEnds characters

/-- The file at a path holds a document that writes a value. -/
def Holds (files : Files) (path : Path) (value : Value) : Prop :=
  ∃ text, files.HoldsText path text ∧ Json.read text = .ok value

/-- Why no story is read from a path. -/
inductive Refuses (files : Files) (path : Path) : LoadFault → Prop where
  | notFound (missing : files.read path = .error .missing) : Refuses files path (.notFound path)
  | unreadable (unusable : files.read path = .error .unusable) :
      Refuses files path (.unreadable path)
  | unnameable (null : '\x00' ∈ path.text.toList) : Refuses files path .unnameable
  | undecodable {octets fault} (found : files.read path = .ok octets)
      (refused : Text.readText octets = .error fault) : Refuses files path (.undecodable fault)
  | malformed {text cause place line column} (holds : files.HoldsText path text)
      (refused : Json.read text = .error (.malformed cause place line column)) :
      Refuses files path (.malformed path cause place line column)
  | longInteger {text digits} (holds : files.HoldsText path text)
      (refused : Json.read text = .error (.longInteger digits)) :
      Refuses files path (.longInteger digits)
  | notObject {value} (holds : files.Holds path value)
      (noObject : ∀ members, value ≠ .dict members) :
      Refuses files path (.notObject path)
  | misshapen {raw : Table Value} {problem} (holds : files.Holds path (.ofTable raw))
      (refused : Story.ofMembers raw.entries = .error problem) :
      Refuses files path (.misshapen problem)

end Files

/-- An object that was read names each member once. -/
theorem Json.read_object {text : List Char} {members : Members}
    (read : Json.read text = .ok (.dict members)) :
    ∃ table : Table Value, members = table.entries := by
  obtain ⟨_, whole⟩ := readValue_of_read read
  obtain ⟨table, same, _⟩ := readValue_object whole
  exact ⟨table, same⟩

theorem Text.readText_eq_ok {octets : List UInt8} {text : List Char} :
    readText octets = .ok text ↔
      ∃ characters, octets = characters.flatMap String.utf8EncodeChar ∧
        text = unifyLineEnds characters := by
  unfold readText
  constructor
  · intro read
    cases decoded : decodeUtf8 octets with
    | error fault =>
        rw [decoded] at read
        cases read
    | ok characters =>
        rw [decoded] at read
        cases read
        exact ⟨characters, (decodeUtf8_eq_ok.mp decoded).symm, rfl⟩
  · rintro ⟨characters, written, rfl⟩
    rw [decodeUtf8_eq_ok.mpr written.symm]
    rfl

variable {files : Files} {path : Path}

theorem Files.holdsText_iff {text : List Char} :
    files.HoldsText path text ↔
      ∃ octets, files.read path = .ok octets ∧ Text.readText octets = .ok text := by
  simp only [Text.readText_eq_ok]
  constructor
  · rintro ⟨characters, found, same⟩
    exact ⟨_, found, characters, rfl, same⟩
  · rintro ⟨_, found, characters, rfl, same⟩
    exact ⟨characters, found, same⟩

theorem Files.descend_ne_unnameable {location : Location} {parts : List String} :
    files.descend location parts ≠ .error .unnameable := by
  induction parts generalizing location with
  | nil => nofun
  | cons part rest inductionHypothesis =>
      unfold descend
      split
      · nofun
      · nofun
      · split
        · nofun
        · exact inductionHypothesis

/-- A file is refused for its name only where no file can have that name. -/
theorem Files.read_unnameable_iff :
    files.read path = .error .unnameable ↔ '\x00' ∈ path.text.toList := by
  unfold Files.read
  constructor
  · intro refused
    cases located : files.locate path with
    | error obstacle =>
        rw [located] at refused
        cases refused
        unfold locate at located
        split at located
        next null => exact null
        next =>
          split at located
          · cases located
          · exact absurd located descend_ne_unnameable
    | ok location =>
        rw [located] at refused
        simp only [bind, Except.bind] at refused
        split at refused <;> cases refused
  · intro null
    rw [locate, if_pos null]
    rfl

theorem Files.Holds.object {members : Members} (holds : files.Holds path (.dict members)) :
    ∃ raw : Table Value, members = raw.entries := by
  obtain ⟨_, _, read⟩ := holds
  exact Json.read_object read

@[simp] theorem Story.load_of_found {octets : List UInt8} (found : files.read path = .ok octets) :
    Story.load files path = ofOctets path octets := by
  rw [load, found]

theorem Story.load_of_holds {raw : Table Value} {story : Story}
    (holds : files.Holds path (.ofTable raw))
    (writes : List.Forall₂ WritesKnot raw.entries story.entries) :
    Story.load files path = .ok story := by
  obtain ⟨text, holdsText, read⟩ := holds
  obtain ⟨octets, found, decoded⟩ := Files.holdsText_iff.mp holdsText
  rw [load_of_found found]
  simp only [ofOctets, decoded, read, Value.ofTable, Story.ofMembers_eq_ok.mpr writes]

theorem Story.load_of_refuses {fault : LoadFault} (refuses : files.Refuses path fault) :
    Story.load files path = .error fault := by
  cases refuses with
  | notFound missing => simp only [load, missing, LoadFault.ofObstacle]
  | unreadable unusable => simp only [load, unusable, LoadFault.ofObstacle]
  | unnameable null =>
      simp only [load, Files.read_unnameable_iff.mpr null, LoadFault.ofObstacle]
  | undecodable found refused =>
      rw [load_of_found found]
      simp only [ofOctets, refused]
  | malformed holds refused =>
      obtain ⟨octets, found, decoded⟩ := Files.holdsText_iff.mp holds
      rw [load_of_found found]
      simp only [ofOctets, decoded, refused, LoadFault.ofJson]
  | longInteger holds refused =>
      obtain ⟨octets, found, decoded⟩ := Files.holdsText_iff.mp holds
      rw [load_of_found found]
      simp only [ofOctets, decoded, refused, LoadFault.ofJson]
  | @notObject value holds noObject =>
      obtain ⟨text, holdsText, read⟩ := holds
      obtain ⟨octets, found, decoded⟩ := Files.holdsText_iff.mp holdsText
      rw [load_of_found found]
      cases value with
      | scalar => simp only [ofOctets, decoded, read]
      | list => simp only [ofOctets, decoded, read]
      | dict members => exact absurd rfl (noObject members)
  | misshapen holds refused =>
      obtain ⟨text, holdsText, read⟩ := holds
      obtain ⟨octets, found, decoded⟩ := Files.holdsText_iff.mp holdsText
      rw [load_of_found found]
      simp only [ofOctets, decoded, read, Value.ofTable, refused]

/-- A file holds a document that writes a story, or there is a reason why none is read. -/
theorem Files.holds_or_refuses (files : Files) (path : Path) :
    (∃ (raw : Table Value) (story : Story), files.Holds path (.ofTable raw) ∧
      List.Forall₂ WritesKnot raw.entries story.entries) ∨ ∃ fault, files.Refuses path fault := by
  cases found : files.read path with
  | error obstacle =>
      right
      cases obstacle with
      | missing => exact ⟨_, .notFound found⟩
      | unusable => exact ⟨_, .unreadable found⟩
      | unnameable => exact ⟨_, .unnameable (read_unnameable_iff.mp found)⟩
  | ok octets =>
      cases decoded : Text.readText octets with
      | error fault => exact .inr ⟨_, .undecodable found decoded⟩
      | ok text =>
          have holdsText : files.HoldsText path text := holdsText_iff.mpr ⟨octets, found, decoded⟩
          cases read : Json.read text with
          | error fault =>
              right
              cases fault with
              | malformed => exact ⟨_, .malformed holdsText read⟩
              | longInteger => exact ⟨_, .longInteger holdsText read⟩
          | ok value =>
              have holds : files.Holds path value := ⟨text, holdsText, read⟩
              cases value with
              | scalar => exact .inr ⟨_, .notObject holds nofun⟩
              | list => exact .inr ⟨_, .notObject holds nofun⟩
              | dict members =>
                  obtain ⟨raw, rfl⟩ := holds.object
                  cases shaped : Story.ofMembers raw.entries with
                  | error problem => exact .inr ⟨_, .misshapen holds shaped⟩
                  | ok story => exact .inl ⟨raw, story, holds, Story.ofMembers_eq_ok.mp shaped⟩

theorem Story.load_eq_ok {story : Story} :
    Story.load files path = .ok story ↔
      ∃ raw : Table Value, files.Holds path (.ofTable raw) ∧
        List.Forall₂ WritesKnot raw.entries story.entries := by
  constructor
  · intro loaded
    rcases files.holds_or_refuses path with ⟨raw, other, holds, writes⟩ | ⟨_, refuses⟩
    · have given := load_of_holds holds writes
      rw [loaded] at given
      cases given
      exact ⟨raw, holds, writes⟩
    · rw [load_of_refuses refuses] at loaded
      cases loaded
  · rintro ⟨raw, holds, writes⟩
    exact load_of_holds holds writes

theorem Story.load_eq_error {fault : LoadFault} :
    Story.load files path = .error fault ↔ files.Refuses path fault := by
  refine ⟨fun failed => ?_, load_of_refuses⟩
  rcases files.holds_or_refuses path with ⟨_, _, holds, writes⟩ | ⟨other, refuses⟩
  · rw [load_of_holds holds writes] at failed
    cases failed
  · rw [load_of_refuses refuses] at failed
    cases failed
    exact refuses

@[simp] theorem Library.story_ofPath (files : Files) (path : Path) :
    ((Library.ofPath path).story files).2 = Story.load files path := by
  unfold Library.story Library.ofPath
  dsimp only
  split <;> simp_all

theorem Files.refuses_load_iff :
    (∃ fault, files.Refuses path fault ∧ fault.dataError? = some .load) ↔
      files.read path = .error .missing ∨ files.read path = .error .unusable ∨
        ∃ text cause place line column, files.HoldsText path text ∧
          Json.read text = .error (.malformed cause place line column) := by
  constructor
  · rintro ⟨fault, refuses, told⟩
    cases refuses with
    | notFound missing => exact .inl missing
    | unreadable unusable => exact .inr (.inl unusable)
    | malformed holds refused => exact .inr (.inr ⟨_, _, _, _, _, holds, refused⟩)
    | unnameable | undecodable | longInteger | notObject | misshapen => cases told
  · rintro (missing | unusable | ⟨_, _, _, _, _, holds, refused⟩)
    · exact ⟨_, .notFound missing, rfl⟩
    · exact ⟨_, .unreadable unusable, rfl⟩
    · exact ⟨_, .malformed holds refused, rfl⟩

theorem Files.refuses_validation_iff :
    (∃ fault, files.Refuses path fault ∧ fault.dataError? = some .validation) ↔
      ∃ value, files.Holds path value ∧ ∀ story, ¬ value.WritesStory story := by
  constructor
  · rintro ⟨fault, refuses, told⟩
    cases refuses with
    | notObject holds noObject =>
        refine ⟨_, holds, ?_⟩
        rintro story ⟨raw, same, _⟩
        exact noObject raw.entries same
    | @misshapen raw problem holds refused =>
        refine ⟨_, holds, ?_⟩
        rintro story ⟨other, same, writes⟩
        rw [Value.dict.inj same, Story.ofMembers_eq_ok.mpr writes] at refused
        cases refused
    | notFound | unreadable | malformed | unnameable | undecodable | longInteger => cases told
  · rintro ⟨value, holds, writesNone⟩
    cases value with
    | scalar => exact ⟨_, .notObject holds nofun, rfl⟩
    | list => exact ⟨_, .notObject holds nofun, rfl⟩
    | dict members =>
        obtain ⟨raw, rfl⟩ := holds.object
        cases shaped : Story.ofMembers raw.entries with
        | error problem => exact ⟨_, .misshapen holds shaped, rfl⟩
        | ok story => exact absurd ⟨raw, rfl, Story.ofMembers_eq_ok.mp shaped⟩ (writesNone story)

theorem Files.refuses_otherwise_iff :
    (∃ fault, files.Refuses path fault ∧ fault.dataError? = none) ↔
      '\x00' ∈ path.text.toList ∨
      (∃ octets, files.read path = .ok octets ∧
        ∀ characters : List Char, octets ≠ characters.flatMap String.utf8EncodeChar) ∨
      ∃ text digits, files.HoldsText path text ∧ Json.HoldsNumeral digits text ∧
        Json.read text = .error (.longInteger digits) := by
  constructor
  · rintro ⟨fault, refuses, told⟩
    cases refuses with
    | unnameable null => exact .inl null
    | @undecodable octets fault found refused =>
        refine .inr (.inl ⟨octets, found, ?_⟩)
        rintro characters rfl
        rw [Text.readText_eq_ok.mpr ⟨characters, rfl, rfl⟩] at refused
        cases refused
    | longInteger holds refused =>
        exact .inr (.inr ⟨_, _, holds, Json.holdsNumeral_of_read refused, refused⟩)
    | notFound | unreadable | malformed | notObject | misshapen => cases told
  · rintro (null | ⟨octets, found, unwritten⟩ | ⟨_, _, holds, _, refused⟩)
    · exact ⟨_, .unnameable null, rfl⟩
    · cases decoded : Text.readText octets with
      | error fault => exact ⟨_, .undecodable found decoded, rfl⟩
      | ok text =>
          obtain ⟨characters, written, _⟩ := Text.readText_eq_ok.mp decoded
          exact absurd written (unwritten characters)
    · exact ⟨_, .longInteger holds refused, rfl⟩

/-- A file gives a story exactly if it holds a document that writes the story. It is told of as one
that cannot be loaded exactly if it is not there, cannot be read or holds a text that is no
document, and as one that holds no story exactly if its document writes none. What is left gets
away untold: a name that no file can have, octets in which no text is written, and a text with a
number of more digits than are read. -/
theorem loading_faults (files : Files) (path : Path) :
    let answer := ((Library.ofPath path).story files).2
    (∀ story, answer = .ok story ↔ ∃ value, files.Holds path value ∧ value.WritesStory story) ∧
    ((∃ fault, answer = .error fault ∧ fault.dataError? = some .load) ↔
      files.read path = .error .missing ∨ files.read path = .error .unusable ∨
        ∃ text cause place line column, files.HoldsText path text ∧
          Json.read text = .error (.malformed cause place line column)) ∧
    ((∃ fault, answer = .error fault ∧ fault.dataError? = some .validation) ↔
      ∃ value, files.Holds path value ∧ ∀ story, ¬ value.WritesStory story) ∧
    ((∃ fault, answer = .error fault ∧ fault.dataError? = none) ↔
      '\x00' ∈ path.text.toList ∨
      (∃ octets, files.read path = .ok octets ∧
        ∀ characters : List Char, octets ≠ characters.flatMap String.utf8EncodeChar) ∨
      ∃ text digits, files.HoldsText path text ∧ Json.HoldsNumeral digits text ∧
        Json.read text = .error (.longInteger digits)) := by
  rw [Library.story_ofPath]
  simp only [Story.load_eq_error]
  refine ⟨fun story => ?_, Files.refuses_load_iff, Files.refuses_validation_iff,
    Files.refuses_otherwise_iff⟩
  rw [Story.load_eq_ok]
  constructor
  · rintro ⟨raw, holds, writes⟩
    exact ⟨_, holds, raw, rfl, writes⟩
  · rintro ⟨_, holds, raw, rfl, writes⟩
    exact ⟨raw, holds, writes⟩

/-- A file with a single octet with which no character begins is not told of as one that cannot be
loaded, nor as one that holds no story. -/
theorem loading_not_always_told :
    ¬ ∀ (files : Files) (path : Path),
      (∃ story, ((Library.ofPath path).story files).2 = .ok story) ∨
        ∃ fault error, ((Library.ofPath path).story files).2 = .error fault ∧
          fault.dataError? = some error := by
  intro told
  let files : Files := ⟨[(⟨.above 0, ["story.json"]⟩, .file [0xFF])]⟩
  let path : Path := ⟨"", ["story.json"]⟩
  have found : files.read path = .ok [0xFF] := by decide +kernel
  have refused : ((Library.ofPath path).story files).2 =
      .error (.undecodable ⟨.startByte, 0, 0xFF, 1⟩) := by
    simpa using Story.load_of_refuses (.undecodable found rfl)
  rcases told files path with ⟨_, given⟩ | ⟨_, _, failed, error⟩
  · rw [refused] at given
    cases given
  · rw [refused] at failed
    cases failed
    cases error

end StoryGraph
