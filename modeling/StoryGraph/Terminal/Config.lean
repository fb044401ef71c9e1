import StoryGraph.Files.Basic
import StoryGraph.Json.Reader
import StoryGraph.Session.State
import StoryGraph.Text.Utf8

/-!
Settings that outlive a session. They are kept in one file of three members; a
member that is missing or does not fit has its standard value, whatever the
others are. The same holds for a table of settings when it is saved, so what is
written comes back as it was.
-/

set_option autoImplicit false

namespace StoryGraph.Terminal

structure Config where
  showSpeaker : Bool
  showTags : Bool
  maxSteps : Int
  deriving DecidableEq, Repr

namespace Config

def standard : Config := ⟨true, false, Settings.standard.maxSteps⟩

def booleanOr (other : Bool) : Value → Bool
  | .scalar (.boolean value) => value
  | _ => other

def positiveOr (other : Int) : Value → Int
  | .scalar (.number (.int value)) => if 0 < value then value else other
  | _ => other

/-- The settings that members hold, standard values for those that they do not. -/
def ofMembers (members : List (String × Value)) : Config :=
  let field (name : String) := (Table.valueOf? name members).getD .nil
  { showSpeaker := booleanOr standard.showSpeaker (field "show_speaker")
    showTags := booleanOr standard.showTags (field "show_tags")
    maxSteps := positiveOr standard.maxSteps (field "max_steps") }

def members (config : Config) : List (String × Value) := [
  ("max_steps", .int config.maxSteps),
  ("show_speaker", .boolean config.showSpeaker),
  ("show_tags", .boolean config.showTags)]

def table (config : Config) : Table Value := .ofList config.members

def booleanText (value : Bool) : String := if value then "true" else "false"

/-- The file that holds settings, if the number of steps has a text. -/
def text? (config : Config) : Option String :=
  (intText? config.maxSteps).map fun maxSteps =>
    "\x7b\n" ++ "  \"max_steps\": " ++ maxSteps ++ ",\n" ++
      "  \"show_speaker\": " ++ booleanText config.showSpeaker ++ ",\n" ++
      "  \"show_tags\": " ++ booleanText config.showTags ++ "\n" ++ "\x7d"

end Config

inductive ConfigFault where
  | undecodable (fault : Text.Utf8Fault)
  | longInteger (digits : Nat)
  | unnameable
  deriving DecidableEq, Repr

def ConfigFault.message : ConfigFault → String
  | .undecodable fault => fault.message
  | .longInteger digits => (Json.Fault.longInteger digits).message
  | .unnameable => "embedded null byte"

inductive SaveFault where
  | obstacle (obstacle : Obstacle)
  | unprintable
  deriving DecidableEq, Repr

namespace Config

/-- The settings in the octets of a file. What is no document has standard settings. -/
def ofOctets (octets : List UInt8) : Except ConfigFault Config :=
  match Text.readText octets with
  | .error fault => .error (.undecodable fault)
  | .ok text =>
      match Json.read text with
      | .error (.longInteger digits) => .error (.longInteger digits)
      | .error (.malformed _ _ _ _) => .ok standard
      | .ok (.dict members) => .ok (ofMembers members)
      | .ok _ => .ok standard

/-- The settings in a file; standard settings if it cannot be read. -/
def load (files : Files) (path : Path) : Except ConfigFault Config :=
  match files.read path with
  | .ok octets => ofOctets octets
  | .error .unnameable => .error .unnameable
  | .error _ => .ok standard

/-- Write the settings that a table holds to a file, in directories that are made where they are
missing. Standard values stand for those that it does not hold. -/
def save (files : Files) (path : Path) (settings : Table Value) : Files × Except SaveFault Unit :=
  match files.makeDirectories path.parent with
  | (files, .error obstacle) => (files, .error (.obstacle obstacle))
  | (files, .ok ()) =>
      match (ofMembers settings.entries).text? with
      | none => (files, .error .unprintable)
      | some text =>
          match files.write path text.toUTF8.toList with
          | .error obstacle => (files, .error (.obstacle obstacle))
          | .ok files => (files, .ok ())

end Config

structure Surroundings where
  home : String
  /-- The directory of the stories that come with the program. -/
  stories : Path
  /-- Whether the conventions of Windows hold for the place of settings. -/
  windows : Bool
  appData : Option String
  debug : Option String
  deriving DecidableEq, Repr

namespace Surroundings

/-- The home directory; slashes at its end say nothing, and nothing at all means the root.
A tilde at its start would stand for a home directory itself, so there is none. -/
def homePath? (surroundings : Surroundings) : Option Path :=
  match (surroundings.home.toList.reverse.dropWhile (· = '/')).reverse with
  | [] => some (.ofText "/")
  | '~' :: _ => none
  | text => some (.ofText (String.ofList text))

/-- Where the conventions of Windows place the player's files, if they place them anywhere
but in the home directory. -/
def appPath? (surroundings : Surroundings) : Option Path :=
  if surroundings.windows then
    match surroundings.appData with
    | some base => if base.isEmpty then none else some (.ofText base)
    | none => none
  else none

/-- The directory of the player's files, unless it lies in a home directory that is unknown. -/
def dataPath? (surroundings : Surroundings) : Option Path :=
  match surroundings.appPath? with
  | some base => some (base / .ofText "knotweave")
  | none =>
      surroundings.homePath?.map fun home =>
        home / .ofText (if surroundings.windows then "knotweave" else ".config/knotweave")

def configPath? (surroundings : Surroundings) : Option Path :=
  surroundings.dataPath?.map fun directory => directory / .ofText "config.json"

end Surroundings

def homelessMessage : String := "Could not determine home directory."

end StoryGraph.Terminal
