import Mathlib.Data.List.SplitBy
import Mathlib.Data.List.TakeWhile
import StoryGraph.Text.LineFill

/-!
The words of a text are its longest runs without a blank. A text that is cut at a blank has the
words of its two parts, and all else that is said of words here follows from that: blanks around a
text do not count, and texts that are put together keep their words where one of them ends, or the
next one begins, with a blank.
-/

set_option autoImplicit false

namespace StoryGraph.Text

def words (text : List Char) : List (List Char) :=
  (text.splitOnP isBlank).filter fun word => !word.isEmpty

/-- No word runs on from one text into the next. -/
def Seam (front back : List Char) : Prop :=
  (∀ last ∈ front.getLast?, isBlank last = true) ∨ ∀ first ∈ back.head?, isBlank first = true

variable {text before word after front back : List Char} {separator : Char}

section trimming

theorem dropWhile_solid (solid : ∀ character ∈ word, isBlank character = false) :
    word.dropWhile isBlank = word := by
  cases word with
  | nil => rfl
  | cons first rest =>
      have firstSolid := solid first List.mem_cons_self
      exact List.dropWhile_cons_of_neg (Bool.eq_false_iff.mp firstSolid)

@[simp] theorem dropWhile_blank_append (blankBefore : allBlank before = true) (text : List Char) :
    (before ++ text).dropWhile isBlank = text.dropWhile isBlank :=
  List.dropWhile_append_of_pos (List.all_eq_true.mp blankBefore)

theorem exists_trimEnd (text : List Char) :
    ∃ after, allBlank after = true ∧ text = trimEnd text ++ after := by
  refine ⟨(text.reverse.takeWhile isBlank).reverse, ?_, ?_⟩
  · rw [allBlank, List.all_reverse]
    exact List.all_takeWhile
  · rw [trimEnd, ← List.reverse_append, List.takeWhile_append_dropWhile, List.reverse_reverse]

/-- Trimming takes blanks away, and nothing else. -/
theorem exists_trim (text : List Char) :
    ∃ before after, allBlank before = true ∧ allBlank after = true ∧
      text = before ++ trim text ++ after := by
  obtain ⟨after, blankAfter, cut⟩ := exists_trimEnd (text.dropWhile isBlank)
  refine ⟨text.takeWhile isBlank, after, List.all_takeWhile, blankAfter, ?_⟩
  rw [List.append_assoc, trim, ← cut, List.takeWhile_append_dropWhile]

theorem trimEnd_append (solid : ∀ character ∈ word, isBlank character = false)
    (blankAfter : allBlank after = true) : trimEnd (word ++ after) = word := by
  have solidReversed : ∀ character ∈ word.reverse, isBlank character = false := by
    simpa using solid
  have blankReversed : allBlank after.reverse = true := by
    rwa [allBlank, List.all_reverse]
  rw [trimEnd, List.reverse_append, dropWhile_blank_append blankReversed,
    dropWhile_solid solidReversed, List.reverse_reverse]

/-- Trimming leaves nothing of the blanks around a word. -/
theorem trim_append (solid : ∀ character ∈ word, isBlank character = false)
    (blankBefore : allBlank before = true) (blankAfter : allBlank after = true) :
    trim (before ++ word ++ after) = word := by
  rw [trim, List.append_assoc, dropWhile_blank_append blankBefore]
  by_cases empty : word = []
  · subst empty
    rw [List.nil_append, List.dropWhile_eq_nil_iff.mpr (List.all_eq_true.mp blankAfter)]
    rfl
  · obtain ⟨first, rest, rfl⟩ := List.exists_cons_of_ne_nil empty
    have firstSolid := solid first List.mem_cons_self
    rw [List.cons_append, List.dropWhile_cons_of_neg (Bool.eq_false_iff.mp firstSolid),
      ← List.cons_append]
    exact trimEnd_append solid blankAfter

end trimming

section words

@[simp] theorem words_nil : words [] = [] := rfl

/-- A blank stands between words. -/
@[simp] theorem words_append_cons (separates : isBlank separator = true) (front back : List Char) :
    words (front ++ separator :: back) = words front ++ words back := by
  rw [words, List.splitOnP_append_cons front back separates, List.filter_append]
  rfl

@[simp] theorem words_cons (separates : isBlank separator = true) (back : List Char) :
    words (separator :: back) = words back :=
  words_append_cons separates [] back

@[simp] theorem words_blank_append (blankBefore : allBlank before = true) (text : List Char) :
    words (before ++ text) = words text := by
  induction before with
  | nil => rfl
  | cons first rest inductionHypothesis =>
      obtain ⟨separates, blankRest⟩ := Bool.and_eq_true_iff.mp blankBefore
      simp [separates, inductionHypothesis blankRest]

@[simp] theorem words_of_allBlank (blank : allBlank text = true) : words text = [] := by
  have dropped := words_blank_append blank []
  rwa [List.append_nil] at dropped

theorem words_append (seam : Seam front back) :
    words (front ++ back) = words front ++ words back := by
  rcases seam with endsBlank | beginsBlank
  · rcases List.eq_nil_or_concat front with rfl | ⟨init, last, rfl⟩
    · rfl
    · have separates : isBlank last = true := endsBlank last (by simp)
      rw [List.concat_eq_append, List.append_assoc, List.singleton_append,
        words_append_cons separates, words_append_cons separates, words_nil, List.append_nil]
  · cases back with
    | nil => simp
    | cons first rest =>
        have separates : isBlank first = true := beginsBlank first rfl
        simp [separates]

@[simp] theorem words_append_blank (text : List Char) (blankAfter : allBlank after = true) :
    words (text ++ after) = words text := by
  have beginsBlank : Seam text after :=
    .inr fun first here => List.all_eq_true.mp blankAfter first (List.mem_of_head? here)
  simp [words_append beginsBlank, blankAfter]

@[simp] theorem words_trimEnd (text : List Char) : words (trimEnd text) = words text := by
  obtain ⟨after, blankAfter, cut⟩ := exists_trimEnd text
  calc
    words (trimEnd text) = words (trimEnd text ++ after) := (words_append_blank _ blankAfter).symm
    _ = words text := by rw [← cut]

/-- Texts that are put together without tearing or joining a word. -/
theorem words_flatten {row : List (List Char)} (seams : row.IsChain Seam) (full : [] ∉ row) :
    words row.flatten = row.flatMap words := by
  induction row with
  | nil => rfl
  | cons first rest inductionHypothesis =>
      have fullRest : [] ∉ rest := fun empty => full (List.mem_cons_of_mem _ empty)
      have seam : Seam first rest.flatten := by
        cases rest with
        | nil => exact .inr (by simp)
        | cons second others =>
            have secondFull : second ≠ [] := by
              rintro rfl
              exact fullRest List.mem_cons_self
            obtain ⟨begin, others, rfl⟩ := List.exists_cons_of_ne_nil secondFull
            exact seams.rel
      rw [List.flatten_cons, words_append seam, inductionHypothesis seams.tail fullRest,
        List.flatMap_cons]

theorem words_intercalate (separates : isBlank separator = true) (lines : List (List Char)) :
    words ([separator].intercalate lines) = lines.flatMap words := by
  induction lines with
  | nil => rfl
  | cons first rest inductionHypothesis =>
      cases rest with
      | nil => simp [List.intercalate]
      | cons second others =>
          rw [List.intercalate_cons_cons, List.append_assoc, List.singleton_append,
            words_append_cons separates, inductionHypothesis]
          rfl

/-- To break a text into lines does not touch its words. -/
theorem words_splitOn (separates : isBlank separator = true) (text : List Char) :
    (text.splitOn separator).flatMap words = words text := by
  rw [← words_intercalate separates, List.intercalate_splitOn]

end words

end StoryGraph.Text
