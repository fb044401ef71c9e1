import StoryGraph.Files.Basic
import StoryGraph.Json.Reader
import StoryGraph.Story.Shape
import StoryGraph.Text.Utf8

/-!
Stories from files. A library reads its file when it is first asked and keeps the
story from then on, whatever becomes of the file; a file that is refused is read
again at the next request.
-/

set_option autoImplicit false

namespace StoryGraph

inductive LoadFault where
  | notFound (path : Path)
  | unreadable (path : Path)
  | unnameable
  | undecodable (fault : Text.Utf8Fault)
  | malformed (path : Path) (cause : Json.Cause) (place line column : Nat)
  | longInteger (digits : Nat)
  | notObject (path : Path)
  | misshapen (problem : Problem)
  deriving DecidableEq, Repr

/-- What readers of stories are told when no story is read: that the file cannot be loaded, or
that it holds no story. -/
inductive DataError where
  | load
  | validation
  deriving DecidableEq, Repr

namespace LoadFault

/-- The error that a fault is told as; some faults get away as they are. -/
def dataError? : LoadFault → Option DataError
  | .notFound _ | .unreadable _ | .malformed _ _ _ _ _ => some .load
  | .notObject _ | .misshapen _ => some .validation
  | .unnameable | .undecodable _ | .longInteger _ => none

def ofObstacle (path : Path) : Obstacle → LoadFault
  | .missing => .notFound path
  | .unusable => .unreadable path
  | .unnameable => .unnameable

def ofJson (path : Path) : Json.Fault → LoadFault
  | .malformed cause place line column => .malformed path cause place line column
  | .longInteger digits => .longInteger digits

def message : LoadFault → String
  | .notFound path => s!"Story file not found: {path.text}"
  | .unreadable path => s!"Unable to read story file: {path.text}"
  | .unnameable => "embedded null byte"
  | .undecodable fault => fault.message
  | .malformed path cause place line column =>
      s!"Invalid JSON in {path.text}: {(Json.Fault.malformed cause place line column).message}"
  | .longInteger digits => (Json.Fault.longInteger digits).message
  | .notObject path => s!"Expected top-level object in {path.text}"
  | .misshapen problem => problem.message

end LoadFault

namespace Story

def ofOctets (path : Path) (octets : List UInt8) : Except LoadFault Story :=
  match Text.readText octets with
  | .error fault => .error (.undecodable fault)
  | .ok text =>
      match Json.read text with
      | .error fault => .error (.ofJson path fault)
      | .ok (.dict members) =>
          match ofMembers members with
          | .error problem => .error (.misshapen problem)
          | .ok story => .ok story
      | .ok _ => .error (.notObject path)

def load (files : Files) (path : Path) : Except LoadFault Story :=
  match files.read path with
  | .error obstacle => .error (.ofObstacle path obstacle)
  | .ok octets => ofOctets path octets

end Story

/-- A file with a story, and the story once it was read. -/
structure Library where
  path : Path
  held : Option Story

namespace Library

def standardName : String := "example_story.json"

def ofPath (path : Path) : Library := ⟨path, none⟩

/-- The story of a library, which holds it from now on. -/
def story (library : Library) (files : Files) : Library × Except LoadFault Story :=
  match library.held with
  | some story => (library, .ok story)
  | none =>
      match Story.load files library.path with
      | .ok story => ({ library with held := some story }, .ok story)
      | .error fault => (library, .error fault)

def names (library : Library) (files : Files) : Library × Except LoadFault (List String) :=
  let (library, story) := library.story files
  (library, story.map Table.orderedKeys)

def knot (library : Library) (files : Files) (name : String) :
    Library × Except LoadFault (Option (List Item)) :=
  let (library, story) := library.story files
  (library, story.map fun story => story.get? name)

end Library

end StoryGraph
