import StoryGraph.Session.State
import StoryGraph.Text.LineFill

/-!
What is printed for the player. Every function here gives the text of whole
lines, line ends included.
-/

set_option autoImplicit false

namespace StoryGraph.Terminal

def standardWidth : Int := 72

def printLine (line : String) : String := line ++ "\n"

def printLines (lines : List String) : String := String.join (lines.map printLine)

def heading (title : String) : String := printLine s!"\n=== {title} ==="

/-- The label before a line of dialogue: its speaker, unless that one is hidden or has no name. -/
def speakerLabel (line : Line) (showSpeaker : Bool) : String :=
  match line.speaker with
  | some speaker => if showSpeaker && !speaker.isEmpty then s!"{speaker}: " else ""
  | none => ""

def lineText (line : Line) (showSpeaker showTags : Bool) : String :=
  let body := Text.wrapText line.body standardWidth (speakerLabel line showSpeaker)
  let written := ", ".intercalate line.tags
  let tags := if showTags && !line.tags.isEmpty then [s!"  [{written}]"] else []
  printLines (body ++ tags)

def numbered (number : Nat) : List String → List String
  | [] => []
  | label :: rest => s!"{number}. {label}" :: numbered (number + 1) rest

def choiceText (prompt : Option String) (labels : List String) : String :=
  let title :=
    match prompt with
    | some prompt => if prompt.isEmpty then "Choices" else prompt
    | none => "Choices"
  heading title ++ printLines (numbered 1 labels)

/-- The lines of variables up to the first one that has no text, and whether all have one. -/
def variableLines : List (String × Value) → List String × Bool
  | [] => ([], true)
  | (name, value) :: rest =>
      match value.text? with
      | none => ([], false)
      | some text =>
          let (lines, whole) := variableLines rest
          (s!"  {name} = {text}" :: lines, whole)

/-- The current knot and the variables in order of their names. Printing breaks off at a variable
that has no text; this is what was printed by then, and whether it is all. -/
def debugText (knot : String) (bindings : Table Value) : String × Bool :=
  let (lines, whole) := variableLines bindings.ordered
  (printLines (s!"[knot: {knot}]" :: lines), whole)

/-- Debug output is asked for by exactly this setting. -/
def isDebug (setting : Option String) : Bool := setting = some "1"

end StoryGraph.Terminal
