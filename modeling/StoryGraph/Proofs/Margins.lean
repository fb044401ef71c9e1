import StoryGraph.Proofs.Wrapping

/-!
Lines keep to their margins. Each begins with the label or with an indent of its length, and what
stands behind fits into the room there, unless it is a single run of the text: characters side by
side that do not break. A run that fits on no line has a line of its own.

That a line fits is an invariant of filling: chunks are taken as long as there is room, and only the
first one is taken in any case. It is no row of spaces then, for that would be dropped. The rest is
that chunks which are no spaces are runs of the text before it was laid out.
-/

set_option autoImplicit false

namespace StoryGraph.Text

/-- Characters side by side in a text that do not break, and all of them. -/
structure Run (text run : List Char) : Prop where
  full : run ≠ []
  unbroken : ∀ character ∈ run, isBreak character = false
  placed : ∃ before after, text = before ++ run ++ after ∧
    (∀ last ∈ before.getLast?, isBreak last = true) ∧
    ∀ first ∈ after.head?, isBreak first = true

/-- A text with one or more spaces in the place of each break. -/
inductive Spread : List Char → List Char → Prop where
  | nil : Spread [] []
  | kept {text other character} (solid : isBreak character = false) (rest : Spread text other) :
      Spread (character :: text) (character :: other)
  | spread {text other separator} (breaks : isBreak separator = true) (more : Nat)
      (rest : Spread text other) :
      Spread (separator :: text) (List.replicate (more + 1) ' ' ++ other)

/-- Both are spaces or neither is. -/
def AlikeSpaces (left right : Char) : Prop := left = ' ' ↔ right = ' '

instance : Trans AlikeSpaces AlikeSpaces AlikeSpaces := ⟨Iff.trans⟩

instance : Std.Symm AlikeSpaces := ⟨fun _ _ => Iff.symm⟩

/-- A line begins with a margin. Behind it there is no more than fits, or a single run. -/
def KeepsMargin (text : String) (most : Int) (margin line : String) : Prop :=
  ∃ content, line.toList = margin.toList ++ content ∧
    ((line.length : Int) ≤ most ∨ Run text.toList content)

variable {room : Nat} {text other front back : List Char} {chunk : Chunk}

section spreading

@[simp] theorem isBreak_space : isBreak ' ' = true := by decide

theorem Spread.cons (spread : Spread text other) (character : Char) :
    Spread (character :: text) ((if isBreak character then ' ' else character) :: other) := by
  by_cases breaks : isBreak character = true
  · rw [if_pos breaks]
    exact .spread breaks 0 spread
  · rw [if_neg breaks]
    exact .kept (Bool.eq_false_iff.mpr breaks) spread

theorem spread_layOut_from (column : Nat) (text : List Char) :
    Spread text ((expandTabs column text).map fun character =>
      if isBreak character then ' ' else character) := by
  induction text generalizing column with
  | nil => exact .nil
  | cons character rest inductionHypothesis =>
      unfold expandTabs
      by_cases tab : character = '\t'
      · subst tab
        have positive : 8 - column % 8 = 7 - column % 8 + 1 := by omega
        rw [if_pos rfl, List.map_append, List.map_replicate, if_pos isBreak_space, positive]
        exact .spread (by decide) (7 - column % 8) (inductionHypothesis _)
      · rw [if_neg tab]
        split
        · exact (inductionHypothesis 0).cons character
        · exact (inductionHypothesis (column + 1)).cons character

theorem spread_layOut (text : List Char) : Spread text (layOut text) := spread_layOut_from 0 text

/-- A text that is spread can be cut where it is cut afterwards, unless that is between spaces. -/
theorem Spread.cut (spread : Spread text (front ++ back))
    (apart : (∀ last ∈ front.getLast?, last ≠ ' ') ∨ ∀ first ∈ back.head?, first ≠ ' ') :
    ∃ textFront textBack, text = textFront ++ textBack ∧ Spread textFront front ∧
      Spread textBack back := by
  generalize whole : front ++ back = other at spread
  induction spread generalizing front with
  | nil =>
      obtain ⟨rfl, rfl⟩ := List.append_eq_nil_iff.mp whole
      exact ⟨[], [], rfl, .nil, .nil⟩
  | @kept text other character solid rest inductionHypothesis =>
      cases front with
      | nil =>
          rw [List.nil_append] at whole
          subst whole
          exact ⟨[], _, rfl, .nil, .kept solid rest⟩
      | cons first front =>
          obtain ⟨rfl, wholeLater⟩ := List.cons_eq_cons.mp whole
          have apartLater := apart.imp_left fun ends last here =>
            ends last (List.mem_getLast?_cons here)
          obtain ⟨textFront, textBack, rfl, spreadFront, spreadBack⟩ :=
            inductionHypothesis apartLater wholeLater
          exact ⟨first :: textFront, textBack, rfl, .kept solid spreadFront, spreadBack⟩
  | @spread text other separator breaks more rest inductionHypothesis =>
      rcases List.append_eq_append_iff.mp whole with
        ⟨spaces, cut, rfl⟩ | ⟨later, rfl, wholeLater⟩
      · have isSpace : ∀ character ∈ front ++ spaces, character = ' ' := by
          rw [← cut]
          exact fun character member => List.eq_of_mem_replicate member
        rcases List.eq_nil_or_concat front with rfl | ⟨init, last, rfl⟩
        · rw [List.nil_append] at cut
          subst cut
          exact ⟨[], _, rfl, .nil, .spread breaks more rest⟩
        · cases spaces with
          | nil =>
              rw [List.append_nil] at cut
              rw [← cut]
              refine ⟨[separator], text, rfl, ?_, rest⟩
              have alone := Spread.spread breaks more .nil
              rwa [List.append_nil] at alone
          | cons first spaces =>
              -- The cut would be between spaces.
              exfalso
              rcases apart with ends | begins
              · exact ends last (by simp) (isSpace last (by simp))
              · exact begins first (by simp) (isSpace first (by simp))
      · have apartLater := apart.imp_left fun ends last here =>
          ends last (List.mem_getLast?_append_of_mem_getLast? here)
        obtain ⟨textFront, textBack, rfl, spreadFront, spreadBack⟩ :=
          inductionHypothesis apartLater wholeLater.symm
        exact ⟨separator :: textFront, textBack, rfl, .spread breaks more spreadFront, spreadBack⟩

/-- What does not break is not changed. -/
theorem Spread.eq_of_unbroken (spread : Spread text other) (unbroken : ' ' ∉ other) :
    text = other := by
  induction spread with
  | nil => rfl
  | kept _ _ inductionHypothesis =>
      rw [inductionHypothesis fun space => unbroken (List.mem_cons_of_mem _ space)]
  | spread _ more _ =>
      rw [List.replicate_succ] at unbroken
      exact absurd List.mem_cons_self unbroken

theorem Spread.unbroken (spread : Spread text other) :
    ∀ character ∈ other, character ≠ ' ' → isBreak character = false := by
  induction spread with
  | nil => nofun
  | kept solid _ inductionHypothesis =>
      intro character member noSpace
      rcases List.mem_cons.mp member with rfl | later
      · exact solid
      · exact inductionHypothesis character later noSpace
  | spread _ _ _ inductionHypothesis =>
      intro character member noSpace
      rcases List.mem_append.mp member with space | later
      · exact absurd (List.eq_of_mem_replicate space) noSpace
      · exact inductionHypothesis character later noSpace

theorem Spread.breaks_head (spread : Spread text other)
    (begins : ∀ first ∈ other.head?, first = ' ') : ∀ first ∈ text.head?, isBreak first = true := by
  cases spread with
  | nil => nofun
  | kept solid =>
      have space := begins _ rfl
      subst space
      cases solid
  | spread breaks =>
      intro first here
      cases here
      exact breaks

theorem Spread.breaks_last (spread : Spread text other)
    (ends : ∀ last ∈ other.getLast?, last = ' ') : ∀ last ∈ text.getLast?, isBreak last = true := by
  induction spread with
  | nil => nofun
  | @kept text other character solid rest inductionHypothesis =>
      have later := inductionHypothesis fun last here => ends last (List.mem_getLast?_cons here)
      cases text with
      | nil =>
          cases rest
          have space := ends character rfl
          subst space
          cases solid
      | cons first others => rwa [List.getLast?_cons_cons]
  | @spread text other separator breaks more rest inductionHypothesis =>
      have later := inductionHypothesis fun last here =>
        ends last (List.mem_getLast?_append_of_mem_getLast? here)
      cases text with
      | nil =>
          intro last here
          cases here
          exact breaks
      | cons first others => rwa [List.getLast?_cons_cons]

end spreading

section runs

/-- A chunk is a row of spaces, or it has none. -/
theorem spaces_or_none (member : chunk ∈ chunks text) :
    (∀ character ∈ chunk, character = ' ') ∨ ' ' ∉ chunk := by
  have neighbours : chunk.IsChain AlikeSpaces :=
    (List.isChain_of_mem_splitBy member).imp fun left right same => by
      simpa [AlikeSpaces] using same
  have alike : ∀ ⦃left⦄, left ∈ chunk → ∀ ⦃right⦄, right ∈ chunk → AlikeSpaces left right :=
    (List.isChain_iff_pairwise.mp neighbours).forall_of_forall fun _ _ => Iff.rfl
  by_cases space : ' ' ∈ chunk
  · exact .inl fun character here => (alike space here).mp rfl
  · exact .inr space

/-- Next to a chunk that is no row of spaces there are spaces only. -/
theorem exists_around_chunk (member : chunk ∈ chunks text) (solid : ' ' ∉ chunk) :
    ∃ before after, text = before ++ (chunk ++ after) ∧
      (∀ last ∈ before.getLast?, last = ' ') ∧ ∀ first ∈ after.head?, first = ' ' := by
  obtain ⟨front, back, cut⟩ := List.mem_iff_append.mp member
  have apart := List.isChain_getLast_head_splitBy
    (fun left right => (left == ' ') == (right == ' ')) text
  rw [show text.splitBy _ = front ++ chunk :: back from cut] at apart
  obtain ⟨_, apartBehind, apartBefore⟩ := List.isChain_append.mp apart
  refine ⟨front.flatten, back.flatten, ?_, ?_, ?_⟩
  · rw [← flatten_chunks text, cut, List.flatten_append, List.flatten_cons]
  · intro last here
    rcases List.eq_nil_or_concat front with rfl | ⟨init, previous, rfl⟩
    · cases here
    · obtain ⟨full, fullChunk, different⟩ := apartBefore previous (by simp) chunk rfl
      have begins : chunk.head fullChunk ≠ ' ' :=
        fun space => solid (space ▸ List.head_mem fullChunk)
      rw [List.concat_eq_append, List.flatten_concat, List.getLast?_append_of_ne_nil _ full,
        List.getLast?_eq_some_getLast full] at here
      cases here
      simpa [begins] using different
  · intro first here
    cases back with
    | nil => cases here
    | cons next others =>
        obtain ⟨fullChunk, full, different⟩ := apartBehind.rel
        have ends : chunk.getLast fullChunk ≠ ' ' :=
          fun space => solid (space ▸ List.getLast_mem fullChunk)
        rw [List.flatten_cons, List.head?_append_of_ne_nil _ full,
          List.head?_eq_some_head full] at here
        cases here
        simpa [ends] using different

/-- A chunk that is no row of spaces is a run of the text that was laid out. -/
theorem run_of_chunk (member : chunk ∈ chunks (layOut text)) (solid : allBlank chunk = false) :
    Run text chunk := by
  have noSpace : ' ' ∉ chunk := by
    rcases spaces_or_none member with spaces | none
    · have blank : allBlank chunk = true := by
        rw [List.eq_replicate_of_mem spaces]
        simp
      rw [solid] at blank
      cases blank
    · exact none
  have full : chunk ≠ [] := by
    rintro rfl
    cases solid
  have notSpace : ∀ character ∈ chunk, character ≠ ' ' := by
    rintro _ here rfl
    exact noSpace here
  obtain ⟨before, after, whole, ends, begins⟩ := exists_around_chunk member noSpace
  have spread := spread_layOut text
  rw [whole] at spread
  obtain ⟨textBefore, textBehind, rfl, spreadBefore, spreadBehind⟩ := spread.cut <| .inr <| by
    intro first here
    rw [List.head?_append_of_ne_nil _ full] at here
    exact notSpace first (List.mem_of_head? here)
  obtain ⟨run, textAfter, rfl, spreadRun, spreadAfter⟩ := spreadBehind.cut <| .inl <| by
    intro last here
    exact notSpace last (List.mem_of_getLast? here)
  obtain rfl := spreadRun.eq_of_unbroken noSpace
  refine ⟨full, fun character here => spreadRun.unbroken character here (notSpace _ here), ?_⟩
  refine ⟨textBefore, textAfter, (List.append_assoc ..).symm, ?_, ?_⟩
  · exact spreadBefore.breaks_last ends
  · exact spreadAfter.breaks_head begins

end runs

section filling

/-- The chunks of a line fit into the room, or there is one chunk that is not blank. -/
def Fits (room : Nat) (line : List Chunk) : Prop :=
  line.flatten.length ≤ room ∨ ∃ chunk, line = [chunk] ∧ allBlank chunk = false

theorem takeFitting_fits (room : Nat) (row : List Chunk) :
    (takeFitting room row).1.flatten.length ≤ room := by
  induction row generalizing room with
  | nil => exact Nat.zero_le room
  | cons chunk rest inductionHypothesis =>
      unfold takeFitting
      split
      · have further := inductionHypothesis (room - chunk.length)
        simp only [List.flatten_cons, List.length_append]
        omega
      · exact Nat.zero_le room

/-- More than fits is taken only if it is the first chunk. -/
theorem takeLine_fits (room : Nat) (chunk : Chunk) (rest : List Chunk) :
    (takeLine room (chunk :: rest)).1.flatten.length ≤ room ∨
      (takeLine room (chunk :: rest)).1 = [chunk] := by
  rw [takeLine]
  split
  · have further := takeFitting_fits (room - chunk.length) rest
    left
    simp only [List.flatten_cons, List.length_append]
    omega
  · exact .inr rfl

theorem fits_of_dropBlankEnd {line : List Chunk} {chunk : Chunk}
    (taken : line.flatten.length ≤ room ∨ line = [chunk]) (something : dropBlankEnd line ≠ []) :
    Fits room (dropBlankEnd line) := by
  rcases taken with fits | rfl
  · obtain ⟨dropped, _, cut⟩ := exists_dropBlankEnd line
    left
    rw [cut, List.flatten_append, List.length_append] at fits
    omega
  · right
    rw [ne_eq, dropBlankEnd_singleton, Bool.not_eq_true] at something
    refine ⟨chunk, ?_, something⟩
    simp [dropBlankEnd, something]

theorem fits_of_mem_fillLines (room : Nat) (begun : Bool) (row : List Chunk) :
    ∀ line ∈ fillLines room begun row, Fits room line := by
  fun_induction fillLines room begun row with
  | case1 =>
      intro line member
      cases member
  | case2 _ _ _ _ _ _ _ inductionHypothesis => exact inductionHypothesis
  | case3 begun row chunk rest _ line something inductionHypothesis =>
      intro kept member
      rcases List.mem_cons.mp member with rfl | later
      · exact fits_of_dropBlankEnd (takeLine_fits room chunk rest) something
      · exact inductionHypothesis kept later

end filling

section margins

variable {width : Int} {label : List Char}

theorem newline_not_mem_layOut (text : List Char) : '\n' ∉ layOut text := by
  intro member
  have solid := (spread_layOut text).unbroken _ member (by decide)
  cases solid

theorem newline_not_mem_filled {line : List Chunk} (member : line ∈ filled room text) :
    '\n' ∉ line.flatten := by
  have part : line <:+: chunks (layOut text) := (cuts_fillLines _ _ _).part line member
  intro newline
  obtain ⟨chunk, here, inside⟩ := List.mem_flatten.mp newline
  apply newline_not_mem_layOut text
  rw [← flatten_chunks (layOut text)]
  exact List.mem_flatten.mpr ⟨chunk, part.subset here, inside⟩

theorem filled_ne_nil (room : Nat) (solid : allBlank text = false) : filled room text ≠ [] := by
  have written : text ≠ [] := by
    rintro rfl
    cases solid
  rw [ne_eq, ← vanishes_iff written]
  intro vanishes
  rw [vanishes.blank] at solid
  cases solid

theorem newline_not_mem_hang {lines : List (List Char)} (oneLine : '\n' ∉ label)
    (unbroken : ∀ line ∈ lines, '\n' ∉ line) : ∀ line ∈ hang label lines, '\n' ∉ line := by
  cases lines with
  | nil => nofun
  | cons first rest =>
      obtain ⟨unbrokenFirst, unbrokenRest⟩ := List.forall_mem_cons.mp unbroken
      refine List.forall_mem_cons.mpr ⟨?_, ?_⟩
      · simp [oneLine, unbrokenFirst]
      · intro line member
        obtain ⟨content, here, rfl⟩ := List.mem_map.mp member
        simp [unbrokenRest content here]

@[simp] theorem splitLines_of_oneLine {lines : List (List Char)}
    (unbroken : ∀ line ∈ lines, '\n' ∉ line) :
    lines.flatMap splitLines = lines := by
  have alone : ∀ line ∈ lines, splitLines line = [line] :=
    fun line member => List.splitOn_eq_singleton (unbroken line member)
  rw [List.flatMap_congr alone, List.flatMap_singleton']

/-- Behind a label on one line there is a line of text for each line of chunks. -/
theorem fill_of_oneLine (solid : allBlank text = false) (oneLine : '\n' ∉ label) :
    fill width label text =
      hang label ((filled (roomBehind width label) text).map List.flatten) := by
  have written : text ≠ [] := by
    rintro rfl
    cases solid
  rw [fill_of_lines written (filled_ne_nil _ solid)]
  apply splitLines_of_oneLine
  apply newline_not_mem_hang oneLine
  intro line member
  obtain ⟨chunks, here, rfl⟩ := List.mem_map.mp member
  exact newline_not_mem_filled here

/-- What stands behind a margin fits there, or it is a single run. -/
theorem keepsMargin_of_filled {text margin line : String} {most : Int} {content : List Chunk}
    (member : content ∈ filled room text.toList) (width : most = margin.length + room)
    (written : line.toList = margin.toList ++ content.flatten) :
    KeepsMargin text most margin line := by
  refine ⟨content.flatten, written, ?_⟩
  rcases fits_of_mem_fillLines room false _ content member with fits | ⟨chunk, rfl, solid⟩
  · left
    have counted := congrArg List.length written
    rw [List.length_append, String.length_toList, String.length_toList] at counted
    omega
  · right
    have part : [chunk] <:+: chunks (layOut text.toList) := (cuts_fillLines _ _ _).part _ member
    rw [List.flatten_singleton]
    exact run_of_chunk (part.subset List.mem_cons_self) solid

end margins

/-- Behind a label on one line, a text that is not all blanks fills lines on a terminal of any
width, even of none. There is always room for a character behind the label. The first line begins
with the label and every other one with as many spaces, and what stands behind them keeps the line
within the width, unless it is a single run of the text. -/
theorem wrapText_keeps_margins (text : String) (width : Int) (label : String)
    (solid : ∃ character ∈ text.toList, isBlank character = false) (oneLine : '\n' ∉ label.toList) :
    let most := max width (label.length + 1)
    let indent := String.ofList (List.replicate label.length ' ')
    0 < most ∧ ∃ first rest, wrapText text width label = first :: rest ∧
      KeepsMargin text most label first ∧ ∀ line ∈ rest, KeepsMargin text most indent line := by
  intro most indent
  have solidText : allBlank text.toList = false := by
    simpa [allBlank] using solid
  let room := roomBehind width label.toList
  have sum : most = label.length + room := by
    have counted : label.toList.length = label.length := String.length_toList
    simp only [most, room, roomBehind, counted]
    omega
  have sumIndent : most = indent.length + room := by
    have counted : indent.length = label.length := by simp [indent]
    rw [counted, sum]
  obtain ⟨first, rest, lines⟩ := List.exists_cons_of_ne_nil (filled_ne_nil room solidText)
  refine ⟨by omega, String.ofList (label.toList ++ first.flatten),
    rest.map fun line => String.ofList (indent.toList ++ line.flatten), ?_, ?_, ?_⟩
  · rw [wrapText, fill_of_oneLine solidText oneLine, lines]
    simp [hang, indent, String.length_toList]
  · apply keepsMargin_of_filled _ sum String.toList_ofList
    rw [lines]
    exact List.mem_cons_self
  · intro line member
    obtain ⟨content, here, rfl⟩ := List.mem_map.mp member
    apply keepsMargin_of_filled _ sumIndent String.toList_ofList
    rw [lines]
    exact List.mem_cons_of_mem _ here

/-- With less width than the label takes, each word behind it has a line of its own. -/
theorem wrapText_keeps_margins_of_long_words :
    let text := "So\tunbelievable it was"
    let lines := ["Ann: So", "     unbelievable", "     it", "     was"]
    (∃ character ∈ text.toList, isBlank character = false) ∧ '\n' ∉ "Ann: ".toList ∧
      wrapText text (-8) "Ann: " = lines ∧
      KeepsMargin text 6 "Ann: " "Ann: So" ∧
      ∀ line ∈ lines.tail, KeepsMargin text 6 "     " line := by
  intro text lines
  have solid : ∃ character ∈ text.toList, isBlank character = false := ⟨'S', by decide, by decide⟩
  have oneLine : '\n' ∉ "Ann: ".toList := by decide
  have written : wrapText text (-8) "Ann: " = lines := by decide +kernel
  obtain ⟨_, first, rest, filled, margin, margins⟩ :=
    wrapText_keeps_margins text (-8) "Ann: " solid oneLine
  have same : "Ann: So" :: lines.tail = first :: rest := written.symm.trans filled
  obtain ⟨rfl, rfl⟩ := List.cons_eq_cons.mp same
  exact ⟨solid, oneLine, written, margin, margins⟩

end StoryGraph.Text
