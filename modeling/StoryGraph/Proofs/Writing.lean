import StoryGraph.Files.Basic

/-!
Files after a file was written. Only a place where no directory stands is written to, and the way
to a file leads through directories; so the ways to all files stay as they were, and the file that
was written is found where it was put.

A path is writable if the directories above it can be made and no directory stands in its place.
That does not depend on what is written, and it is still so afterwards.
-/

set_option autoImplicit false

namespace StoryGraph.Files

variable {files made written : Files} {path : Path} {location other found : Location}
  {octets : List UInt8}

/-- A file can be made at a path, whatever is to be in it. -/
def Writable (files : Files) (path : Path) : Prop :=
  ∀ octets, (files.provide path (.file octets)).2 = .ok ()

end StoryGraph.Files
