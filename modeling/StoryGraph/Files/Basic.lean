import StoryGraph.Files.Path

/-!
Files as a program meets them. A location counts steps up from the current
directory, or starts at a root, and then names the steps down. Reading and
writing fail where a part of the path is missing or is no directory, where a
directory stands in the file's place, and where a name or a path is too long.
-/

set_option autoImplicit false

namespace StoryGraph

inductive Base where
  /-- So many steps above the current directory. -/
  | above (steps : Nat)
  | root
  deriving DecidableEq, Repr

structure Location where
  base : Base
  names : List String
  deriving DecidableEq, Repr

namespace Location

def here : Location := ⟨.above 0, []⟩

def root : Location := ⟨.root, []⟩

/-- The directory above; above the root is the root. -/
def above (location : Location) : Location :=
  match location.base, location.names with
  | .above steps, [] => ⟨.above (steps + 1), []⟩
  | base, names => ⟨base, names.dropLast⟩

def enter (location : Location) (part : String) : Location :=
  if part = ".." then location.above
  else { location with names := location.names ++ [part] }

end Location

inductive Entry where
  | file (octets : List UInt8)
  | directory
  deriving DecidableEq, Repr

inductive Obstacle where
  | missing
  /-- Something is there, and it does not serve. -/
  | unusable
  /-- The path holds a character that no path may hold. -/
  | unnameable
  deriving DecidableEq, Repr

structure Files where
  entries : List (Location × Entry)
  deriving DecidableEq, Repr

namespace Files

def empty : Files := ⟨[]⟩

def longestName : Nat := 255

def longestPath : Nat := 4095

/-- What stands at a location. The roots and the directories above the current one are
always there. -/
def entry? (files : Files) (location : Location) : Option Entry :=
  if location.names.isEmpty then some .directory
  else (files.entries.find? fun entry => entry.1 = location).map Prod.snd

def put (files : Files) (location : Location) (entry : Entry) : Files :=
  ⟨(location, entry) :: files.entries.filter fun other => other.1 ≠ location⟩

/-- Go down from a location. Every step but the last one must end in a directory. -/
def descend (files : Files) (location : Location) : List String → Except Obstacle Location
  | [] => .ok location
  | part :: rest =>
      match files.entry? location with
      | none => .error .missing
      | some (.file _) => .error .unusable
      | some .directory =>
          if longestName < part.utf8ByteSize then .error .unusable
          else files.descend (location.enter part) rest

def locate (files : Files) (path : Path) : Except Obstacle Location :=
  if '\x00' ∈ path.text.toList then .error .unnameable
  else if longestPath < path.text.utf8ByteSize then .error .unusable
  else files.descend (if path.root = "" then .here else .root) path.parts

def read (files : Files) (path : Path) : Except Obstacle (List UInt8) := do
  match files.entry? (← files.locate path) with
  | some (.file octets) => .ok octets
  | some .directory => .error .unusable
  | none => .error .missing

def isDirectory (files : Files) (path : Path) : Bool :=
  match files.locate path with
  | .ok location => files.entry? location = some .directory
  | .error _ => false

def write (files : Files) (path : Path) (octets : List UInt8) : Except Obstacle Files := do
  let location ← files.locate path
  match files.entry? location with
  | some .directory => .error .unusable
  | _ => .ok (files.put location (.file octets))

def makeDirectory (files : Files) (path : Path) : Except Obstacle Files := do
  let location ← files.locate path
  match files.entry? location with
  | some _ => .error .unusable
  | none => .ok (files.put location .directory)

def ensureDirectory (files : Files) (path : Path) : Except Obstacle Files :=
  match files.makeDirectory path with
  | .ok made => .ok made
  | .error .unusable => if files.isDirectory path then .ok files else .error .unusable
  | .error obstacle => .error obstacle

/-- Make a directory and, where they are missing, those above it. Directories that were
made before one could not be made stay. -/
def makeDirectories (files : Files) (path : Path) : Files × Except Obstacle Unit :=
  match files.ensureDirectory path with
  | .ok made => (made, .ok ())
  | .error .missing =>
      if _parts : path.parts = [] then (files, .error .missing)
      else
        match files.makeDirectories path.parent with
        | (made, .error obstacle) => (made, .error obstacle)
        | (made, .ok ()) =>
            match made.ensureDirectory path with
            | .ok all => (all, .ok ())
            | .error obstacle => (made, .error obstacle)
  | .error obstacle => (files, .error obstacle)
termination_by path.parts.length
decreasing_by
  have := List.length_pos_iff.mpr _parts
  simp only [Path.parent, List.length_dropLast]
  omega

def provide (files : Files) (path : Path) (entry : Entry) : Files × Except Obstacle Unit :=
  match entry with
  | .directory => files.makeDirectories path
  | .file octets =>
      match files.makeDirectories path.parent with
      | (files, .error obstacle) => (files, .error obstacle)
      | (files, .ok ()) =>
          match files.write path octets with
          | .ok files => (files, .ok ())
          | .error obstacle => (files, .error obstacle)

end Files

end StoryGraph
