import StoryGraph.Story.Item

/-!
Problems that do not stop a session. A notice says what happened and where; a
diagnostic is its form for readers.
-/

set_option autoImplicit false

namespace StoryGraph

structure Cursor where
  knot : String
  position : Nat
  deriving DecidableEq, Repr

/-- A problem for readers: what it is called, what happened and what it is about. -/
structure Diagnostic where
  severity : String
  code : String
  message : String
  context : Table String
  deriving DecidableEq

/-- A diagnostic on one line, its context in parentheses if it has any. -/
def Diagnostic.text (diagnostic : Diagnostic) : String :=
  let context :=
    " ".intercalate (diagnostic.context.entries.map fun entry => s!"{entry.1}={entry.2}")
  let suffix := if context.isEmpty then "" else s!" ({context})"
  s!"[{diagnostic.severity}] {diagnostic.code}: {diagnostic.message}{suffix}"

inductive Notice where
  | unknownOperator (name : String) (unknown : UnknownOperator)
  | typeMismatch (name : String) (mismatch : Mismatch)
  /-- An item that is not understood, and where the cursor stood. -/
  | unrecognizedItem (kind : String) (place : Cursor)

namespace Notice

def code : Notice → String
  | .unknownOperator _ _ => "UNKNOWN_OPERATOR"
  | .typeMismatch _ _ => "TYPE_MISMATCH"
  | .unrecognizedItem _ _ => "UNRECOGNIZED_ITEM_KIND"

def message : Notice → String
  | .unknownOperator _ unknown => unknown.message
  | .typeMismatch _ mismatch => mismatch.message
  | .unrecognizedItem kind _ => s!"Unknown content type '{kind}' skipped."

def context : Notice → Table String
  | .unknownOperator name _ => .ofList [("variable", name)]
  | .typeMismatch name _ => .ofList [("variable", name)]
  | .unrecognizedItem _ place =>
      .ofList [("knot", place.knot), ("position", toString place.position)]

def diagnostic (notice : Notice) : Diagnostic :=
  ⟨"WARN", notice.code, notice.message, notice.context⟩

end Notice

inductive LogLevel where
  | debug
  | warning
  deriving DecidableEq, Repr

def LogLevel.name : LogLevel → String
  | .debug => "DEBUG"
  | .warning => "WARNING"

inductive LogLine where
  | noticed (notice : Notice)
  | diverted (target : String) (visit : Nat)
  | committed (option : Nat) (label knot : String)
  | aborted

namespace LogLine

def level : LogLine → LogLevel
  | .noticed _ => .warning
  | _ => .debug

def message : LogLine → String
  | .noticed notice => notice.diagnostic.text
  | .diverted target visit => s!"Diverted to knot '{target}' (visit {visit})"
  | .committed option label knot => s!"Committed choice {option} ({label}) in knot '{knot}'"
  | .aborted => "Story session aborted"

end LogLine

end StoryGraph
