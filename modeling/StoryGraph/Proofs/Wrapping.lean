import StoryGraph.Proofs.Words
import StoryGraph.Terminal.Render

/-!
Lines keep the words of the text that they are filled with. To lay the text out changes its blanks
only, and the row of its chunks has the same words because of two chunks side by side one is a run
of spaces. Whatever fits on which line, the lines are parts of the row, cut where blank chunks are
dropped or where one chunk ends, and no word runs over the end of a chunk.

The label is put before the first line, if there is one. Where all that a text would fill is dropped
there is none, and the label is left out.
-/

set_option autoImplicit false

namespace StoryGraph.Text

/-- A text with other blanks in the place of its own: one or more for each. -/
inductive Respaced : List Char → List Char → Prop where
  | nil : Respaced [] []
  | kept {text other character} (rest : Respaced text other) :
      Respaced (character :: text) (character :: other)
  | spaced {text other separator first more} (separates : isBlank separator = true)
      (firstBlank : isBlank first = true) (moreBlank : allBlank more = true)
      (rest : Respaced text other) : Respaced (separator :: text) (first :: (more ++ other))

/-- A row of blank chunks. -/
def BlankRow (row : List Chunk) : Prop := ∀ chunk ∈ row, allBlank chunk = true

/-- The lines hold a row, a few blank chunks apart. -/
inductive Cuts : List Chunk → List (List Chunk) → Prop where
  | done : Cuts [] []
  | skip {chunk row lines} (blank : allBlank chunk = true) (cuts : Cuts row lines) :
      Cuts (chunk :: row) lines
  | line {row lines} (kept : List Chunk) (cuts : Cuts row lines) :
      Cuts (kept ++ row) (kept :: lines)

variable {room : Nat} {begun : Bool} {row : List Chunk} {text other : List Char}

section layout

theorem isBlank_of_isBreak {character : Char} (breaks : isBreak character = true) :
    isBlank character = true := by
  have member : character ∈ ['\t', '\n', '\x0b', '\x0c', '\r', ' '] := of_decide_eq_true breaks
  have blanks : ['\t', '\n', '\x0b', '\x0c', '\r', ' '].all isBlank = true := by decide
  exact List.all_eq_true.mp blanks character member

@[simp] theorem allBlank_replicate (count : Nat) : allBlank (List.replicate count ' ') = true := by
  have blank : isBlank ' ' = true := by decide
  simp [allBlank, blank]

/-- By induction with what stands before the texts: a character that is kept goes there. -/
theorem Respaced.words_append (respaced : Respaced text other) (before : List Char) :
    words (before ++ other) = words (before ++ text) := by
  induction respaced generalizing before with
  | nil => rfl
  | @kept _ _ character _ inductionHypothesis =>
      have moved := inductionHypothesis (before ++ [character])
      rwa [List.append_assoc, List.append_assoc] at moved
  | spaced separates firstBlank moreBlank _ inductionHypothesis =>
      rw [words_append_cons firstBlank, words_blank_append moreBlank, words_append_cons separates]
      exact congrArg _ (inductionHypothesis [])

theorem Respaced.allBlank (respaced : Respaced text other) :
    allBlank other = allBlank text := by
  simp only [Text.allBlank]
  induction respaced with
  | nil => rfl
  | kept _ inductionHypothesis => simp [inductionHypothesis]
  | spaced separates firstBlank moreBlank _ inductionHypothesis =>
      rw [Text.allBlank] at moreBlank
      simp [separates, firstBlank, moreBlank, inductionHypothesis]

theorem respaced_expandTabs (column : Nat) (text : List Char) :
    Respaced text (expandTabs column text) := by
  induction text generalizing column with
  | nil => exact .nil
  | cons character rest inductionHypothesis =>
      unfold expandTabs
      by_cases tab : character = '\t'
      · subst tab
        have positive : 8 - column % 8 = 8 - column % 8 - 1 + 1 := by omega
        simp only [if_true]
        rw [positive, List.replicate_succ]
        exact .spaced (by decide) (by decide) (allBlank_replicate _) (inductionHypothesis _)
      · rw [if_neg tab]
        by_cases returns : character = '\n' ∨ character = '\r'
        · rw [if_pos returns]
          exact .kept (inductionHypothesis _)
        · rw [if_neg returns]
          exact .kept (inductionHypothesis _)

theorem respaced_breaks (text : List Char) :
    Respaced text (text.map fun character => if isBreak character then ' ' else character) := by
  induction text with
  | nil => exact .nil
  | cons character rest inductionHypothesis =>
      rw [List.map_cons]
      by_cases breaks : isBreak character = true
      · rw [if_pos breaks, ← List.nil_append (List.map _ rest)]
        exact .spaced (isBlank_of_isBreak breaks) (by decide) rfl inductionHypothesis
      · rw [if_neg breaks]
        exact .kept inductionHypothesis

@[simp] theorem words_layOut (text : List Char) : words (layOut text) = words text :=
  ((respaced_breaks _).words_append []).trans ((respaced_expandTabs 0 text).words_append [])

@[simp] theorem allBlank_layOut (text : List Char) : allBlank (layOut text) = allBlank text :=
  (respaced_breaks _).allBlank.trans (respaced_expandTabs 0 text).allBlank

end layout

section rows

/-- Of two chunks side by side one is a run of spaces. -/
theorem seams_chunks (text : List Char) : (chunks text).IsChain Seam := by
  apply (List.isChain_getLast_head_splitBy _ text).imp
  intro front back apart
  obtain ⟨full, fullBack, different⟩ := apart
  by_cases space : front.getLast full = ' '
  · left
    intro last here
    rw [List.getLast?_eq_some_getLast full, space] at here
    cases here
    decide
  · right
    intro first here
    have begins : back.head fullBack = ' ' := by simpa [space] using different
    rw [List.head?_eq_some_head fullBack, begins] at here
    cases here
    decide

theorem full_chunks (text : List Char) : [] ∉ chunks text := List.nil_notMem_splitBy _ text

@[simp] theorem flatten_chunks (text : List Char) : (chunks text).flatten = text :=
  List.flatten_splitBy _ text

@[simp] theorem words_chunks (text : List Char) : (chunks text).flatMap words = words text := by
  rw [← words_flatten (seams_chunks text) (full_chunks text), flatten_chunks]

@[simp] theorem takeFitting_append (room : Nat) (row : List Chunk) :
    (takeFitting room row).1 ++ (takeFitting room row).2 = row := by
  induction row generalizing room with
  | nil => rfl
  | cons chunk rest inductionHypothesis =>
      unfold takeFitting
      split
      · exact congrArg _ (inductionHypothesis _)
      · rfl

@[simp] theorem takeLine_append (room : Nat) (row : List Chunk) :
    (takeLine room row).1 ++ (takeLine room row).2 = row := by
  cases row with
  | nil => rfl
  | cons chunk rest =>
      rw [takeLine]
      split
      · exact congrArg _ (takeFitting_append _ _)
      · rfl

@[simp] theorem blankRow_cons {chunk : Chunk} :
    BlankRow (chunk :: row) ↔ allBlank chunk = true ∧ BlankRow row := List.forall_mem_cons

theorem exists_dropBlankEnd (line : List Chunk) :
    ∃ dropped, BlankRow dropped ∧ line = dropBlankEnd line ++ dropped := by
  unfold dropBlankEnd
  split
  next last here =>
    split
    next blank =>
      refine ⟨[last], by simpa [BlankRow] using blank, ?_⟩
      exact (List.dropLast_append_getLast? last here).symm
    next => exact ⟨[], nofun, (List.append_nil line).symm⟩
  next => exact ⟨[], nofun, (List.append_nil line).symm⟩

theorem exists_dropBlankStart (row : List Chunk) :
    ∃ dropped, BlankRow dropped ∧ row = dropped ++ dropBlankStart row := by
  unfold dropBlankStart
  split
  next => exact ⟨[], nofun, rfl⟩
  next chunk rest =>
    split
    next blank => exact ⟨[chunk], by simpa [BlankRow] using blank, rfl⟩
    next => exact ⟨[], nofun, rfl⟩

end rows

section fillLines

theorem Cuts.blank_append {before : List Chunk} {lines : List (List Chunk)}
    (blank : BlankRow before) (cuts : Cuts row lines) : Cuts (before ++ row) lines := by
  induction before with
  | nil => exact cuts
  | cons chunk rest inductionHypothesis =>
      obtain ⟨blankChunk, blankRest⟩ := blankRow_cons.mp blank
      exact .skip blankChunk (inductionHypothesis blankRest)

theorem Cuts.words {lines : List (List Chunk)} (cuts : Cuts row lines) :
    lines.flatMap (List.flatMap words) = row.flatMap words := by
  induction cuts with
  | done => rfl
  | skip blank _ inductionHypothesis =>
      simp [blank, inductionHypothesis]
  | line kept _ inductionHypothesis =>
      rw [List.flatMap_cons, List.flatMap_append, inductionHypothesis]

/-- Each line is a part of the row. -/
theorem Cuts.part {lines : List (List Chunk)} (cuts : Cuts row lines) :
    ∀ line ∈ lines, line <:+: row := by
  induction cuts with
  | done => nofun
  | skip _ _ inductionHypothesis =>
      intro line member
      exact (inductionHypothesis line member).trans (List.suffix_cons _ _).isInfix
  | line kept _ inductionHypothesis =>
      intro line member
      rcases List.mem_cons.mp member with rfl | member
      · exact (List.prefix_append line _).isInfix
      · exact (inductionHypothesis line member).trans (List.suffix_append kept _).isInfix

theorem cuts_of_start {start : List Chunk} {lines : List (List Chunk)}
    (starts : (if _ : begun = true then dropBlankStart row else row) = start)
    (cuts : Cuts start lines) : Cuts row lines := by
  subst starts
  cases begun with
  | true =>
      obtain ⟨dropped, blank, cut⟩ := exists_dropBlankStart row
      rw [cut]
      exact cuts.blank_append blank
  | false => exact cuts

/-- Whatever fits on which line, the lines hold the row. -/
theorem cuts_fillLines (room : Nat) (begun : Bool) (row : List Chunk) :
    Cuts row (fillLines room begun row) := by
  fun_induction fillLines room begun row with
  | case1 begun row starts => exact cuts_of_start starts .done
  | case2 begun row chunk rest starts line nothing inductionHypothesis =>
      -- The line is a single blank chunk, and the next one starts as if it had not been there.
      obtain ⟨dropped, blank, cut⟩ := exists_dropBlankEnd line.1
      rw [nothing, List.nil_append] at cut
      apply cuts_of_start starts
      rw [← takeLine_append room (chunk :: rest)]
      exact inductionHypothesis.blank_append (cut ▸ blank)
  | case3 begun row chunk rest starts line something inductionHypothesis =>
      obtain ⟨dropped, blank, cut⟩ := exists_dropBlankEnd line.1
      have whole : chunk :: rest = dropBlankEnd line.1 ++ (dropped ++ line.2) := by
        rw [← List.append_assoc, ← cut]
        exact (takeLine_append room (chunk :: rest)).symm
      apply cuts_of_start starts
      rw [whole]
      exact .line _ (inductionHypothesis.blank_append blank)

/-- The lines of chunks that a text fills. -/
def filled (room : Nat) (text : List Char) : List (List Chunk) :=
  fillLines room false (chunks (layOut text))

/-- A line is cut out of the row without tearing a word. -/
theorem words_of_filled {line : List Chunk} (member : line ∈ filled room text) :
    words line.flatten = line.flatMap words := by
  have part : line <:+: chunks (layOut text) := (cuts_fillLines _ _ _).part line member
  have seams : line.IsChain Seam := by
    obtain ⟨before, after, whole⟩ := part
    have rowSeams := seams_chunks (layOut text)
    rw [← whole] at rowSeams
    exact rowSeams.left_of_append.right_of_append
  exact words_flatten seams fun empty => full_chunks _ (part.subset empty)

/-- The words on the lines, line by line, are the words of the text. -/
@[simp] theorem words_filled (room : Nat) (text : List Char) :
    ((filled room text).map List.flatten).flatMap words = words text :=
  calc
    ((filled room text).map List.flatten).flatMap words
    _ = (filled room text).flatMap (List.flatMap words) := by
      rw [List.flatMap_map]
      exact List.flatMap_congr fun line member => words_of_filled member
    _ = (chunks (layOut text)).flatMap words := (cuts_fillLines _ _ _).words
    _ = words (layOut text) := words_chunks _
    _ = words text := words_layOut text

end fillLines

section vanishing

theorem takeFitting_nil {rest : List Chunk} (tight : ∀ next ∈ rest.head?, room < next.length) :
    takeFitting room rest = ([], rest) := by
  cases rest with
  | nil => rfl
  | cons next others => rw [takeFitting, if_neg (Nat.not_le.mpr (tight next rfl))]

@[simp] theorem dropBlankEnd_singleton (chunk : Chunk) :
    dropBlankEnd [chunk] = [] ↔ allBlank chunk = true := by
  by_cases blank : allBlank chunk = true <;> simp [dropBlankEnd, blank]

theorem dropBlankEnd_cons_cons (chunk next : Chunk) (others : List Chunk) :
    dropBlankEnd (chunk :: next :: others) ≠ [] := by
  unfold dropBlankEnd
  split
  · split <;> simp
  · simp

theorem fillLines_skip {chunk : Chunk} {rest : List Chunk}
    (nothing : dropBlankEnd (takeLine room (chunk :: rest)).1 = []) :
    fillLines room false (chunk :: rest) =
      fillLines room false (takeLine room (chunk :: rest)).2 := by
  rw [fillLines]
  simp [nothing]

theorem fillLines_keep {chunk : Chunk} {rest : List Chunk}
    (something : dropBlankEnd (takeLine room (chunk :: rest)).1 ≠ []) :
    fillLines room false (chunk :: rest) ≠ [] := by
  obtain ⟨kept, others, held⟩ := List.exists_cons_of_ne_nil something
  rw [fillLines]
  simp [held]

/-- Where no line stands above, a line is not written exactly if it would hold a single blank
chunk. -/
theorem fillLines_cons_eq_nil_iff (chunk : Chunk) (rest : List Chunk) :
    fillLines room false (chunk :: rest) = [] ↔
      (allBlank chunk = true ∧ ∀ next ∈ rest.head?, room < chunk.length + next.length) ∧
        fillLines room false rest = [] := by
  by_cases alone : ∀ next ∈ rest.head?, room < chunk.length + next.length
  -- The first chunk is taken in any case, so it is alone on its line even where it does not fit.
  · have taken : takeLine room (chunk :: rest) = ([chunk], rest) := by
      rw [takeLine]
      by_cases fits : chunk.length ≤ room
      · have tight : ∀ next ∈ rest.head?, room - chunk.length < next.length := by
          intro next here
          have together := alone next here
          omega
        rw [if_pos fits, takeFitting_nil tight]
      · rw [if_neg fits]
    by_cases blank : allBlank chunk = true
    · have nothing : dropBlankEnd (takeLine room (chunk :: rest)).1 = [] := by
        rwa [taken, dropBlankEnd_singleton]
      rw [fillLines_skip nothing, taken]
      exact ⟨fun empty => ⟨⟨blank, alone⟩, empty⟩, fun parts => parts.2⟩
    · have something : dropBlankEnd (takeLine room (chunk :: rest)).1 ≠ [] := by
        rwa [taken, ne_eq, dropBlankEnd_singleton]
      exact iff_of_false (fillLines_keep something) fun parts => blank parts.1.1
  · apply iff_of_false _ fun parts => alone parts.1.2
    cases rest with
    | nil => simp at alone
    | cons next others =>
        have together : chunk.length + next.length ≤ room := by simpa using alone
        have fits : chunk.length ≤ room := by omega
        have fitsToo : next.length ≤ room - chunk.length := by omega
        -- Of two chunks on a line at most the second one is dropped.
        apply fillLines_keep
        rw [takeLine, if_pos fits, takeFitting, if_pos fitsToo]
        apply dropBlankEnd_cons_cons

theorem fillLines_eq_nil_iff (row : List Chunk) :
    fillLines room false row = [] ↔
      BlankRow row ∧ row.IsChain fun chunk next => room < chunk.length + next.length := by
  induction row with
  | nil => simp [fillLines, BlankRow]
  | cons chunk rest inductionHypothesis =>
      simpa [fillLines_cons_eq_nil_iff, inductionHypothesis, List.isChain_cons] using
        and_and_and_comm

@[simp] theorem blankRow_chunks_iff (text : List Char) :
    BlankRow (chunks text) ↔ allBlank text = true := by
  have joined : allBlank text = allBlank (chunks text).flatten := by simp
  rw [joined, allBlank, List.all_flatten, List.all_eq_true]
  rfl

end vanishing

section hanging

/-- How much room there is on a line behind the label. -/
def roomBehind (width : Int) (label : List Char) : Nat :=
  (max width (label.length + 1)).toNat - label.length

/-- A text that is written as a single empty line, without its label: it is not empty but it has
blanks only, and of its chunks no two that stand side by side have room on one line. -/
structure Vanishes (room : Nat) (text : List Char) : Prop where
  written : text ≠ []
  blank : allBlank text = true
  narrow : (chunks (layOut text)).IsChain fun chunk next => room < chunk.length + next.length

theorem words_hang {label : List Char} {lines : List (List Char)}
    (spaced : ∀ last ∈ label.getLast?, isBlank last = true) (something : lines ≠ []) :
    (hang label lines).flatMap words = words label ++ lines.flatMap words := by
  obtain ⟨first, rest, rfl⟩ := List.exists_cons_of_ne_nil something
  have indented : ∀ line, words (List.replicate label.length ' ' ++ line) = words line :=
    fun line => words_blank_append (allBlank_replicate _) line
  rw [hang, List.flatMap_cons, words_append (.inl spaced), List.flatMap_map]
  simp only [indented]
  rw [List.append_assoc, List.flatMap_cons]

@[simp] theorem words_splitLines (lines : List (List Char)) :
    (lines.flatMap splitLines).flatMap words = lines.flatMap words := by
  rw [List.flatMap_assoc]
  exact List.flatMap_congr fun line _ => words_splitOn (by decide) line

theorem vanishes_iff (written : text ≠ []) : Vanishes room text ↔ filled room text = [] := by
  rw [filled, fillLines_eq_nil_iff, blankRow_chunks_iff, allBlank_layOut]
  exact ⟨fun vanishes => ⟨vanishes.blank, vanishes.narrow⟩,
    fun parts => ⟨written, parts.1, parts.2⟩⟩

/-- What is written behind a label, unless the text is empty. -/
theorem fill_eq {width : Int} {label : List Char} (written : text ≠ []) :
    fill width label text =
      match hang label ((filled (roomBehind width label) text).map List.flatten) with
      | [] => [[]]
      | lines => lines.flatMap splitLines := by
  have full : ¬ text.isEmpty = true := by rwa [List.isEmpty_iff]
  rw [fill, if_neg full]
  rfl

theorem fill_of_vanishes {width : Int} {label : List Char}
    (vanishes : Vanishes (roomBehind width label) text) : fill width label text = [[]] := by
  rw [fill_eq vanishes.written, (vanishes_iff vanishes.written).mp vanishes]
  rfl

theorem fill_of_lines {width : Int} {label : List Char} (written : text ≠ [])
    (something : filled (roomBehind width label) text ≠ []) :
    fill width label text =
      (hang label ((filled (roomBehind width label) text).map List.flatten)).flatMap
        splitLines := by
  obtain ⟨first, rest, lines⟩ := List.exists_cons_of_ne_nil something
  rw [fill_eq written, lines]
  rfl

theorem words_fill {width : Int} {label : List Char}
    (spaced : ∀ last ∈ label.getLast?, isBlank last = true)
    (stays : ¬ Vanishes (roomBehind width label) text) :
    (fill width label text).flatMap words = words label ++ words text := by
  by_cases written : text = []
  · subst written
    calc
      (fill width label []).flatMap words
      _ = [trimEnd label].flatMap words := rfl
      _ = words label ++ words [] := by simp [words_trimEnd]
  · rw [vanishes_iff written] at stays
    rw [fill_of_lines written stays, words_splitLines,
      words_hang spaced (mt List.map_eq_nil_iff.mp stays), words_filled]

theorem wrapText_of_vanishes {text : String} {width : Int} {label : String}
    (vanishes : Vanishes (roomBehind width label.toList) text.toList) :
    wrapText text width label = [""] := by
  rw [wrapText, fill_of_vanishes vanishes]
  rfl

end hanging

/-- A label is nothing, or a name with a space behind it. -/
theorem speakerLabel_spaced (line : Line) (showSpeaker : Bool) :
    Terminal.speakerLabel line showSpeaker = "" ∨
      ∃ name, Terminal.speakerLabel line showSpeaker = name ++ " " := by
  unfold Terminal.speakerLabel
  split
  next speaker _ =>
    split
    next =>
      right
      refine ⟨speaker ++ ":", ?_⟩
      rw [String.append_assoc]
      rfl
    next => exact .inl rfl
  next => exact .inl rfl

/-- The words of the lines in their order. -/
def wordsOf (lines : List String) : List (List Char) := lines.flatMap fun line => words line.toList

/-- Behind a label that ends in a space, or no label, the lines that a text is wrapped into hold the
words of the label and of the text, each of them whole, once and in its place. Only where a text of
blanks is written as one empty line is the label left out with it; that is a loss exactly if the
label has words. -/
theorem wrapText_keeps_words (text : String) (width : Int) (label : String)
    (spaced : label = "" ∨ ∃ name, label = name ++ " ") :
    let room := roomBehind width label.toList
    let lines := wrapText text width label
    (Vanishes room text.toList → lines = [""]) ∧
      (¬ Vanishes room text.toList → wordsOf lines = words (label ++ text).toList) ∧
      (wordsOf lines = words (label ++ text).toList ↔
        ¬ (Vanishes room text.toList ∧ words label.toList ≠ [])) := by
  intro room lines
  have ends : ∀ last ∈ label.toList.getLast?, isBlank last = true := by
    rcases spaced with rfl | ⟨name, rfl⟩
    · nofun
    · intro last here
      rw [String.toList_append] at here
      have space : last = ' ' := by simpa using here.symm
      subst space
      decide
  have asked : words (label ++ text).toList = words label.toList ++ words text.toList := by
    rw [String.toList_append, words_append (.inl ends)]
  have shown : wordsOf lines = (fill width label.toList text.toList).flatMap words := by
    simp only [lines, wordsOf, wrapText, List.flatMap_map, String.toList_ofList]
  have vanished : Vanishes room text.toList → lines = [""] := wrapText_of_vanishes
  have stayed : ¬ Vanishes room text.toList → wordsOf lines = words (label ++ text).toList := by
    intro stays
    rw [shown, asked]
    exact words_fill ends stays
  refine ⟨vanished, stayed, ?_⟩
  by_cases vanishes : Vanishes room text.toList
  · have lost : wordsOf lines = [] := by
      rw [vanished vanishes]
      rfl
    rw [lost, asked, words_of_allBlank vanishes.blank, List.append_nil]
    constructor
    · intro same parts
      exact parts.2 same.symm
    · intro kept
      by_contra different
      exact kept ⟨vanishes, fun nothing => different nothing.symm⟩
  · simp [vanishes, stayed vanishes]

/-- A line of blanks keeps its label, if two of its chunks have room on one line. -/
theorem wrapText_keeps_words_of_blanks :
    let lines := wrapText " \u00a0" 72 "Ann: "
    (("Ann: " : String) = "" ∨ ∃ name, "Ann: " = name ++ " ") ∧
      wordsOf lines = ["Ann:".toList] := by
  intro lines
  have spaced : ("Ann: " : String) = "" ∨ ∃ name, "Ann: " = name ++ " " := .inr ⟨"Ann:", rfl⟩
  obtain ⟨_, stayed, _⟩ := wrapText_keeps_words " \u00a0" 72 "Ann: " spaced
  refine ⟨spaced, (stayed ?_).trans (by decide)⟩
  intro vanishes
  have narrow := vanishes.narrow
  have apart : ¬ (chunks (layOut " \u00a0".toList)).IsChain
      fun chunk next => roomBehind 72 "Ann: ".toList < chunk.length + next.length := by decide
  exact apart narrow

/-- A line that is a single space is shown without its speaker. -/
theorem wrapText_not_always_keeps_words :
    let label := Terminal.speakerLabel ⟨" ", some "Ann", []⟩ true
    let lines := wrapText " " Terminal.standardWidth label
    (label = "" ∨ ∃ name, label = name ++ " ") ∧ lines = [""] ∧
      wordsOf lines = [] ∧ words (label ++ " ").toList = ["Ann:".toList] := by
  intro label lines
  have vanishes : Vanishes (roomBehind Terminal.standardWidth label.toList) " ".toList := by
    constructor <;> decide
  have shown : lines = [""] := wrapText_of_vanishes vanishes
  refine ⟨speakerLabel_spaced _ _, shown, ?_, by decide⟩
  rw [shown]
  rfl

end StoryGraph.Text
