import StoryGraph.Text.Blank

/-!
Filling lines with the words of a text. The text is laid out on the columns of
a terminal first: tabs reach to the next multiple of eight and the other
breaking characters become spaces. It is then a row of chunks, runs of spaces
and runs of anything else, and each line takes chunks as long as they fit. A
blank chunk is dropped at the end of a line, and at its start on every line but
the first. A chunk that fits on no line has a line of its own.
-/

set_option autoImplicit false

namespace StoryGraph.Text

/-- A run of spaces or a run of other characters. -/
abbrev Chunk := List Char

def isBreak (character : Char) : Bool :=
  character ∈ ['\t', '\n', '\x0b', '\x0c', '\r', ' ']

/-- Tabs as spaces up to the next multiple of eight columns; a line feed or a
carriage return goes back to the first column. -/
def expandTabs (column : Nat) : List Char → List Char
  | [] => []
  | character :: rest =>
      if character = '\t' then
        let spaces := 8 - column % 8
        List.replicate spaces ' ' ++ expandTabs (column + spaces) rest
      else if character = '\n' ∨ character = '\r' then character :: expandTabs 0 rest
      else character :: expandTabs (column + 1) rest

/-- A text on the columns of a terminal, with spaces for all breaks. -/
def layOut (text : List Char) : List Char :=
  (expandTabs 0 text).map fun character => if isBreak character then ' ' else character

def chunks (text : List Char) : List Chunk :=
  text.splitBy fun left right => (left == ' ') == (right == ' ')

/-- The chunks that fit into a room, and those that are left. -/
def takeFitting (room : Nat) : List Chunk → List Chunk × List Chunk
  | [] => ([], [])
  | chunk :: rest =>
      if chunk.length ≤ room then
        let next := takeFitting (room - chunk.length) rest
        (chunk :: next.1, next.2)
      else ([], chunk :: rest)

/-- The chunks of one line, and those that are left. The first one is taken in any case. -/
def takeLine (room : Nat) : List Chunk → List Chunk × List Chunk
  | [] => ([], [])
  | chunk :: rest =>
      if chunk.length ≤ room then
        let next := takeFitting (room - chunk.length) rest
        (chunk :: next.1, next.2)
      else ([chunk], rest)

theorem takeFitting_length_le (room : Nat) (row : List Chunk) :
    (takeFitting room row).2.length ≤ row.length := by
  induction row generalizing room with
  | nil => simp [takeFitting]
  | cons chunk rest inductionHypothesis =>
      unfold takeFitting
      split
      · exact Nat.le_succ_of_le (inductionHypothesis _)
      · exact Nat.le_refl _

theorem takeLine_length_lt (room : Nat) (chunk : Chunk) (rest : List Chunk) :
    (takeLine room (chunk :: rest)).2.length < (chunk :: rest).length := by
  rw [takeLine]
  split
  · exact Nat.lt_succ_of_le (takeFitting_length_le _ _)
  · exact Nat.lt_succ_self _

def dropBlankEnd (row : List Chunk) : List Chunk :=
  match row.getLast? with
  | some chunk => if allBlank chunk then row.dropLast else row
  | none => row

def dropBlankStart : List Chunk → List Chunk
  | [] => []
  | chunk :: rest => if allBlank chunk then rest else chunk :: rest

theorem dropBlankStart_length_le (row : List Chunk) :
    (dropBlankStart row).length ≤ row.length := by
  unfold dropBlankStart
  split
  · exact Nat.le_refl _
  · split
    · exact Nat.le_succ _
    · exact Nat.le_refl _

/-- The lines that a row of chunks fills, each without its indent. `begun` says
whether a line stands above; a line of blanks alone is not written. -/
def fillLines (room : Nat) (begun : Bool) (row : List Chunk) : List (List Chunk) :=
  match _shorter : if begun then dropBlankStart row else row with
  | [] => []
  | chunk :: rest =>
      let line := takeLine room (chunk :: rest)
      match dropBlankEnd line.1 with
      | [] => fillLines room begun line.2
      | kept => kept :: fillLines room true line.2
termination_by row.length
decreasing_by
  all_goals
    have shrinks := takeLine_length_lt room chunk rest
    have start := dropBlankStart_length_le row
    grind

def hang (label : List Char) : List (List Char) → List (List Char)
  | [] => []
  | line :: rest => (label ++ line) :: rest.map (List.replicate label.length ' ' ++ ·)

def splitLines (text : List Char) : List (List Char) := text.splitOn '\n'

/-- The lines of a text behind a label, at most `width` columns each where a single
chunk does not need more. There is always room for one column behind the label. -/
def fill (width : Int) (label text : List Char) : List (List Char) :=
  if text.isEmpty then [trimEnd label]
  else
    let room := (max width (label.length + 1)).toNat - label.length
    match hang label ((fillLines room false (chunks (layOut text))).map List.flatten) with
    | [] => [[]]
    | lines => lines.flatMap splitLines

def wrapText (text : String) (width : Int) (label : String) : List String :=
  (fill width label.toList text.toList).map String.ofList

end StoryGraph.Text
