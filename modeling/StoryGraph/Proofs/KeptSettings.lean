import StoryGraph.Proofs.Loading
import StoryGraph.Proofs.SettingsText

/-!
Settings from a file. Each of the three is what an object in the file says of it, if that serves as
this setting; else it is the standard one, whatever the file says of the other two. A file that is
not there or holds no object says nothing, so all three are standard.

No settings at all are read exactly where a story is neither read nor told of as broken: from a
name that no file can have, from octets that write no text, and from a whole number that is too
long.
-/

set_option autoImplicit false

namespace StoryGraph

variable {files : Files} {path : Path}

/-- The file at a path holds an object in which a name has a value. -/
def Files.Says (files : Files) (path : Path) (name : String) (value : Value) : Prop :=
  ∃ raw : Table Value, files.Holds path (.ofTable raw) ∧ raw.get? name = some value

theorem Files.Holds.unique {value other : Value} (holds : files.Holds path value)
    (too : files.Holds path other) : value = other := by
  obtain ⟨text, holdsText, read⟩ := holds
  obtain ⟨otherText, otherHoldsText, otherRead⟩ := too
  obtain ⟨octets, found, decoded⟩ := holdsText_iff.mp holdsText
  obtain ⟨otherOctets, otherFound, otherDecoded⟩ := holdsText_iff.mp otherHoldsText
  cases found.symm.trans otherFound
  cases decoded.symm.trans otherDecoded
  cases read.symm.trans otherRead
  rfl

theorem Files.says_iff_of_holds {raw : Table Value} (holds : files.Holds path (.ofTable raw))
    {name : String} {value : Value} :
    files.Says path name value ↔ raw.get? name = some value := by
  constructor
  · rintro ⟨other, otherHolds, said⟩
    have same : raw.entries = other.entries := Value.dict.inj (holds.unique otherHolds)
    rw [Table.get?, same]
    exact said
  · exact fun said => ⟨raw, holds, said⟩

namespace Terminal

inductive Setting where
  | maxSteps
  | showSpeaker
  | showTags
  deriving DecidableEq, Repr

namespace Setting

/-- The settings in the order in which a file has them. -/
def all : List Setting := [.maxSteps, .showSpeaker, .showTags]

def name : Setting → String
  | .maxSteps => "max_steps"
  | .showSpeaker => "show_speaker"
  | .showTags => "show_tags"

/-- A value serves as a setting: a positive number as the steps, a boolean as what is shown. -/
inductive Accepts : Setting → Value → Prop where
  | maxSteps {steps : Int} (positive : 0 < steps) : Accepts .maxSteps (.int steps)
  | showSpeaker (shown : Bool) : Accepts .showSpeaker (.boolean shown)
  | showTags (shown : Bool) : Accepts .showTags (.boolean shown)

end Setting

namespace Config

def value (config : Config) : Setting → Value
  | .maxSteps => .int config.maxSteps
  | .showSpeaker => .boolean config.showSpeaker
  | .showTags => .boolean config.showTags

variable {entries : Members} {setting : Setting} {value : Value} {config : Config}

@[simp] theorem booleanOr_of_unfit {other : Bool} (unfit : ∀ shown, value ≠ .boolean shown) :
    booleanOr other value = other := by
  unfold booleanOr
  split
  next shown => exact absurd rfl (unfit shown)
  next => rfl

@[simp] theorem positiveOr_of_unfit {other : Int}
    (unfit : ∀ steps, 0 < steps → value ≠ .int steps) :
    positiveOr other value = other := by
  unfold positiveOr
  split
  next steps => exact if_neg fun positive => unfit steps positive rfl
  next => rfl

theorem positiveOr_pos {other : Int} (positive : 0 < other) (value : Value) :
    0 < positiveOr other value := by
  unfold positiveOr
  split
  · split
    next given => exact given
    next => exact positive
  · exact positive

/-- What members have for a setting; nothing is nil. -/
def field (entries : Members) (setting : Setting) : Value :=
  (Table.valueOf? setting.name entries).getD .nil

@[simp] theorem maxSteps_ofMembers :
    (ofMembers entries).maxSteps = positiveOr standard.maxSteps (field entries .maxSteps) := rfl

@[simp] theorem showSpeaker_ofMembers :
    (ofMembers entries).showSpeaker =
      booleanOr standard.showSpeaker (field entries .showSpeaker) := rfl

@[simp] theorem showTags_ofMembers :
    (ofMembers entries).showTags = booleanOr standard.showTags (field entries .showTags) := rfl

@[simp] theorem value_ofMembers_of_accepts (accepted : setting.Accepts (field entries setting)) :
    (ofMembers entries).value setting = field entries setting := by
  cases setting with
  | maxSteps =>
      rw [Config.value, maxSteps_ofMembers]
      generalize field entries .maxSteps = given at accepted ⊢
      cases accepted with
      | maxSteps positive => exact congrArg Value.int (if_pos positive)
  | showSpeaker =>
      rw [Config.value, showSpeaker_ofMembers]
      generalize field entries .showSpeaker = given at accepted ⊢
      cases accepted with
      | showSpeaker shown => rfl
  | showTags =>
      rw [Config.value, showTags_ofMembers]
      generalize field entries .showTags = given at accepted ⊢
      cases accepted with
      | showTags shown => rfl

@[simp] theorem value_ofMembers_of_not_accepts (unfit : ¬ setting.Accepts (field entries setting)) :
    (ofMembers entries).value setting = standard.value setting := by
  cases setting with
  | maxSteps =>
      rw [Config.value, maxSteps_ofMembers, positiveOr_of_unfit]
      · rfl
      · exact fun steps positive same => unfit (same ▸ .maxSteps positive)
  | showSpeaker =>
      rw [Config.value, showSpeaker_ofMembers, booleanOr_of_unfit]
      · rfl
      · exact fun shown same => unfit (same ▸ .showSpeaker shown)
  | showTags =>
      rw [Config.value, showTags_ofMembers, booleanOr_of_unfit]
      · rfl
      · exact fun shown same => unfit (same ▸ .showTags shown)

theorem value_ofMembers_of_found (found : Table.valueOf? setting.name entries = some value)
    (accepted : setting.Accepts value) : (ofMembers entries).value setting = value := by
  have held : field entries setting = value := by rw [field, found, Option.getD_some]
  rw [value_ofMembers_of_accepts (held ▸ accepted), held]

theorem value_ofMembers_of_none_fits
    (unfit : ∀ value, Table.valueOf? setting.name entries = some value → ¬ setting.Accepts value) :
    (ofMembers entries).value setting = standard.value setting := by
  apply value_ofMembers_of_not_accepts
  unfold field
  cases found : Table.valueOf? setting.name entries with
  | none => nofun
  | some value => exact unfit value found

theorem ofMembers_maxSteps_pos (entries : Members) : 0 < (ofMembers entries).maxSteps :=
  positiveOr_pos (by decide) _

theorem accepts_value (positive : 0 < config.maxSteps) (setting : Setting) :
    setting.Accepts (config.value setting) := by
  cases setting with
  | maxSteps => exact .maxSteps positive
  | showSpeaker => exact .showSpeaker _
  | showTags => exact .showTags _

theorem load_of_holds {raw : Table Value} (holds : files.Holds path (.ofTable raw)) :
    load files path = .ok (ofMembers raw.entries) := by
  obtain ⟨text, holdsText, read⟩ := holds
  obtain ⟨octets, found, decoded⟩ := Files.holdsText_iff.mp holdsText
  rw [load, found]
  simp only [ofOctets, decoded, read, Value.ofTable]

/-- Settings that were read stand in an object in the file, or they are standard and there is
none. -/
theorem holds_of_load (loaded : load files path = .ok config) :
    (∃ raw : Table Value, files.Holds path (.ofTable raw) ∧ config = ofMembers raw.entries) ∨
      (∀ raw : Table Value, ¬ files.Holds path (.ofTable raw)) ∧ config = standard := by
  by_cases held : ∃ raw : Table Value, files.Holds path (.ofTable raw)
  · obtain ⟨raw, holds⟩ := held
    cases loaded.symm.trans (load_of_holds holds)
    exact .inl ⟨raw, holds, rfl⟩
  · refine .inr ⟨not_exists.mp held, ?_⟩
    unfold load at loaded
    split at loaded
    next octets found =>
      unfold ofOctets at loaded
      split at loaded
      · cases loaded
      next text decoded =>
        split at loaded
        · cases loaded
        · cases loaded
          rfl
        next members read =>
          have holds : files.Holds path (.dict members) :=
            ⟨text, Files.holdsText_iff.mpr ⟨octets, found, decoded⟩, read⟩
          obtain ⟨raw, rfl⟩ := holds.object
          exact absurd ⟨raw, holds⟩ held
        · cases loaded
          rfl
    · cases loaded
    · cases loaded
      rfl

/-- Settings get away for the reasons for which a story does without being told of. -/
theorem load_refused_iff :
    (∃ fault, load files path = .error fault) ↔
      ∃ fault, files.Refuses path fault ∧ fault.dataError? = none := by
  constructor
  · rintro ⟨fault, refused⟩
    unfold load at refused
    split at refused
    next octets found =>
      unfold ofOctets at refused
      split at refused
      next decoded => exact ⟨_, .undecodable found decoded, rfl⟩
      next text decoded =>
        have holdsText : files.HoldsText path text :=
          Files.holdsText_iff.mpr ⟨octets, found, decoded⟩
        split at refused
        next read => exact ⟨_, .longInteger holdsText read, rfl⟩
        all_goals cases refused
    next found => exact ⟨_, .unnameable (Files.read_unnameable_iff.mp found), rfl⟩
    · cases refused
  · rintro ⟨fault, refuses, told⟩
    cases refuses with
    | unnameable null =>
        exact ⟨.unnameable, by rw [load, Files.read_unnameable_iff.mpr null]⟩
    | @undecodable _ cause found refused =>
        exact ⟨.undecodable cause, by simp only [load, found, ofOctets, refused]⟩
    | @longInteger _ digits holdsText refused =>
        obtain ⟨octets, found, decoded⟩ := Files.holdsText_iff.mp holdsText
        exact ⟨.longInteger digits, by simp only [load, found, ofOctets, decoded, refused]⟩
    | notFound | unreadable | malformed | notObject | misshapen => cases told

theorem load_maxSteps_pos (loaded : load files path = .ok config) : 0 < config.maxSteps := by
  rcases holds_of_load loaded with ⟨raw, _, rfl⟩ | ⟨_, rfl⟩
  · exact ofMembers_maxSteps_pos raw.entries
  · decide

/-- Reading settings fails exactly on a name that no file can have, on octets in which no text is
written, and on a number of more digits than are read. What it gives otherwise is the three
settings and nothing else, each with a value that serves, and a session takes the number of steps.
A setting has the value that the file gives it if that serves, and the standard one if the file
gives it none that does. -/
theorem load_gives_usable_settings (files : Files) (path : Path) :
    ((∃ fault, load files path = .error fault) ↔
      '\x00' ∈ path.text.toList ∨
      (∃ octets, files.read path = .ok octets ∧
        ∀ characters : List Char, octets ≠ characters.flatMap String.utf8EncodeChar) ∨
      ∃ text digits, files.HoldsText path text ∧ Json.HoldsNumeral digits text ∧
        Json.read text = .error (.longInteger digits)) ∧
    ∀ config, load files path = .ok config →
      config.members = Setting.all.map (fun setting => (setting.name, config.value setting)) ∧
      (∀ setting : Setting, setting.Accepts (config.value setting)) ∧
      (∀ strictTypes, ∃ settings, Settings.ofInt? config.maxSteps strictTypes = some settings ∧
        (settings.maxSteps : Int) = config.maxSteps) ∧
      ∀ setting : Setting,
        (∀ value, files.Says path setting.name value → setting.Accepts value →
          config.value setting = value) ∧
        ((∀ value, files.Says path setting.name value → ¬ setting.Accepts value) →
          config.value setting = standard.value setting) := by
  refine ⟨load_refused_iff.trans Files.refuses_otherwise_iff, fun config loaded => ?_⟩
  have positive : 0 < config.maxSteps := load_maxSteps_pos loaded
  have budget : ∀ strictTypes, ∃ settings,
      Settings.ofInt? config.maxSteps strictTypes = some settings ∧
        (settings.maxSteps : Int) = config.maxSteps := fun strictTypes =>
    ⟨⟨_, strictTypes, _⟩, dif_pos positive, Int.toNat_of_nonneg (Int.le_of_lt positive)⟩
  refine ⟨rfl, accepts_value positive, budget, fun setting => ?_⟩
  rcases holds_of_load loaded with ⟨raw, holds, rfl⟩ | ⟨holdsNone, rfl⟩
  · simp only [Files.says_iff_of_holds holds]
    exact ⟨fun value found accepted => value_ofMembers_of_found found accepted,
      value_ofMembers_of_none_fits⟩
  · refine ⟨?_, fun _ => rfl⟩
    rintro value ⟨raw, holds, _⟩
    exact absurd holds (holdsNone raw)

/-- A number of steps that is no number is passed over, and the tags are shown as the file says. -/
theorem load_gives_usable_settings_past_unfit_steps :
    let document := "\x7b\n  \"max_steps\": true,\n  \"show_tags\": true\n\x7d"
    let path : Path := ⟨"", ["settings.json"]⟩
    let files : Files := ⟨[(⟨.above 0, ["settings.json"]⟩, .file document.toUTF8.toList)]⟩
    ∃ config, load files path = .ok config ∧ config.value .showTags = .boolean true ∧
      config.value .maxSteps = .int 1000 := by
  intro document path files
  let raw : Table Value := (Table.empty.insert "max_steps" (.boolean true)).insert "show_tags"
    (.boolean true)
  have written : document.toList =
      '\x7b' :: Json.memberText "max_steps".toList "true".toList (',' ::
        Json.memberText "show_tags".toList "true".toList ['\n', '\x7d']) := by decide +kernel
  have read : Json.read document.toList = .ok (.ofTable raw) := by
    rw [written]
    apply Json.read_members
    apply Json.readMembers_before_comma (by decide) (Json.writes_boolean true)
    exact Json.readMembers_before_brace (by decide) (Json.writes_boolean true)
  have found : files.read path = .ok document.toUTF8.toList := by decide +kernel
  have decoded : Text.readText document.toUTF8.toList = .ok document.toList :=
    Text.readText_toUTF8 (by decide)
  have holds : files.Holds path (.ofTable raw) :=
    ⟨_, Files.holdsText_iff.mpr ⟨_, found, decoded⟩, read⟩
  have loaded := load_of_holds holds
  obtain ⟨_, _, _, settled⟩ := (load_gives_usable_settings files path).2 _ loaded
  refine ⟨_, loaded, (settled .showTags).1 _ ⟨raw, holds, rfl⟩ (.showTags true),
    (settled .maxSteps).2 ?_⟩
  intro value said
  cases (Files.says_iff_of_holds holds).mp said
  nofun

/-- A file with a single octet with which no character begins gives no settings. -/
theorem load_not_always_gives_settings :
    ¬ ∀ octets : List UInt8, ∃ config,
      load ⟨[(⟨.above 0, ["settings.json"]⟩, .file octets)]⟩ ⟨"", ["settings.json"]⟩ =
        .ok config := by
  intro gives
  obtain ⟨config, loaded⟩ := gives [0xFF]
  have refused : load ⟨[(⟨.above 0, ["settings.json"]⟩, .file [0xFF])]⟩
      ⟨"", ["settings.json"]⟩ = .error (.undecodable ⟨.startByte, 0, 0xFF, 1⟩) := by
    decide +kernel
  cases loaded.symm.trans refused

end Config

end Terminal

end StoryGraph
