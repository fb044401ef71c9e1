/-!
Names of files. A path has a root, which is empty for a path from the current
directory, and parts between slashes. Empty parts and single dots say nothing
and are left out; double dots stay, since what they lead to depends on the
files. Exactly two slashes at the start are a root of their own.
-/

set_option autoImplicit false

namespace StoryGraph

structure Path where
  root : String
  parts : List String
  deriving DecidableEq, Repr

namespace Path

def rootOf : List Char → String
  | '/' :: '/' :: '/' :: _ => "/"
  | '/' :: '/' :: _ => "//"
  | '/' :: _ => "/"
  | _ => ""

def ofText (text : String) : Path where
  root := rootOf text.toList
  parts := ((text.toList.splitOn '/').map String.ofList).filter fun part =>
    part ≠ "" && part ≠ "."

/-- A path in writing; the path without root and parts is a dot. -/
def text (path : Path) : String :=
  if path.root = "" ∧ path.parts = [] then "." else path.root ++ "/".intercalate path.parts

def name (path : Path) : String := path.parts.getLast?.getD ""

def parent (path : Path) : Path := { path with parts := path.parts.dropLast }

/-- A path seen from another one; a path with a root stays what it is. -/
def join (path other : Path) : Path :=
  if other.root = "" then { path with parts := path.parts ++ other.parts } else other

/-- The name without its last suffix. A point at either end begins no suffix. -/
def stem (path : Path) : String :=
  let reversed := path.name.toList.reverse
  let suffix := reversed.takeWhile (· ≠ '.')
  match reversed.drop suffix.length with
  | _ :: before =>
      if suffix.isEmpty || before.isEmpty then path.name else String.ofList before.reverse
  | [] => path.name

instance : Div Path := ⟨join⟩

end Path

end StoryGraph
