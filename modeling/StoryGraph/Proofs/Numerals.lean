import Mathlib.Data.Nat.Digits.Defs
import StoryGraph.Proofs.Loading
import StoryGraph.Terminal.Arguments

/-!
Whole numbers that are read can be written. A reader takes no more digits than `digitLimit`, in a
document as on a command line, so what they are worth lies below `numeralEnd`, and that is what the
writer asks for. The other way round, the digits that a number is written in are worth that number,
and a number above zero does not begin with a zero.
-/

set_option autoImplicit false

namespace StoryGraph

/-- A whole number that can be written, with or without a sign. -/
def Writable (value : Int) : Prop := value.natAbs < Text.numeralEnd

namespace Text

/-- Digits are read from the first one on, and the library counts them from the last. -/
@[simp] theorem ofDecimalDigits_eq (digits : List Nat) :
    ofDecimalDigits digits = Nat.ofDigits 10 digits.reverse := by
  rw [Nat.ofDigits_eq_foldr, List.foldr_reverse]
  simp [ofDecimalDigits, Nat.add_comm]

/-- Digits are worth less than a one with as many zeros. -/
theorem ofDecimalDigits_lt {digits : List Nat} (small : ∀ digit ∈ digits, digit < 10) :
    ofDecimalDigits digits < 10 ^ digits.length := by
  rw [ofDecimalDigits_eq, ← List.length_reverse]
  apply Nat.ofDigits_lt_base_pow_length (by decide)
  simpa using small

theorem lt_numeralEnd {number length : Nat} (below : number < 10 ^ length)
    (few : length ≤ digitLimit) : number < numeralEnd := by
  have grows (limit : Nat) (few : length ≤ limit) : number < Nat.pow 10 limit :=
    Nat.lt_of_lt_of_le below (Nat.pow_le_pow_right (by decide) few)
  unfold numeralEnd
  exact grows digitLimit few

theorem digitsAfter_lt_ten {text : List Char} {digits : List Nat}
    (read : digitsAfter text = some digits) : ∀ digit ∈ digits, digit < 10 := by
  fun_induction digitsAfter text generalizing digits with
  | case1 =>
      cases read
      nofun
  | case2 character rest inductionHypothesis =>
      simp only [Option.bind_eq_bind, Option.bind_eq_some_iff] at read
      obtain ⟨first, worth, others, readRest, same⟩ := read
      cases same
      exact List.forall_mem_cons.mpr ⟨decimalValue?_lt_ten worth, inductionHypothesis readRest⟩
  | case3 character rest _ inductionHypothesis =>
      simp only [Option.bind_eq_bind, Option.bind_eq_some_iff] at read
      obtain ⟨first, worth, others, readRest, same⟩ := read
      cases same
      exact List.forall_mem_cons.mpr ⟨decimalValue?_lt_ten worth, inductionHypothesis readRest⟩

theorem digits?_lt_ten {text : List Char} {digits : List Nat}
    (read : digits? text = some digits) : ∀ digit ∈ digits, digit < 10 := by
  unfold digits? at read
  split at read
  · cases read
  · simp only [Option.bind_eq_bind, Option.bind_eq_some_iff] at read
    obtain ⟨first, worth, others, readRest, same⟩ := read
    cases same
    exact List.forall_mem_cons.mpr ⟨decimalValue?_lt_ten worth, digitsAfter_lt_ten readRest⟩

theorem magnitude?_lt {text : List Char} {magnitude : Nat}
    (read : magnitude? text = some magnitude) : magnitude < numeralEnd := by
  unfold magnitude? at read
  simp only [Option.bind_eq_bind, Option.bind_eq_some_iff] at read
  obtain ⟨digits, readDigits, within⟩ := read
  split at within
  next few =>
    cases within
    exact lt_numeralEnd (ofDecimalDigits_lt (digits?_lt_ten readDigits)) few
  next => cases within

theorem wholeNumber?_writable {text : List Char} {value : Int}
    (read : wholeNumber? text = some value) : Writable value := by
  unfold wholeNumber? at read
  split at read
  all_goals
    obtain ⟨magnitude, readMagnitude, rfl⟩ := Option.map_eq_some_iff.mp read
    simpa [Writable] using magnitude?_lt readMagnitude

end Text

namespace Json

variable {text : List Char} {rest : Rest text} {steps : Int}

end Json

/-- All whole numbers among the values of a table can be written. -/
def Table.HoldsWritable (table : Table Value) : Prop :=
  ∀ name steps, (name, Value.int steps) ∈ table.entries → Writable steps

theorem Table.HoldsWritable.insert {table : Table Value} (holds : table.HoldsWritable)
    {name : String} {value : Value} (writable : ∀ steps, value = .int steps → Writable steps) :
    (table.insert name value).HoldsWritable := by
  intro other steps present
  rcases mem_putEntry present with same | earlier
  · exact writable steps (Prod.mk.inj same).2.symm
  · exact holds other steps earlier

namespace Json

end Json

namespace Terminal

variable {arguments : Arguments} {tokens : List Token} {result : Arguments} {value : Int}

/-- A number of steps that a command line names can be written. -/
def Arguments.StepsWritable (arguments : Arguments) : Prop :=
  ∀ steps, arguments.maxSteps = .number steps → Writable steps

theorem Arguments.StepsWritable.assign {assigned : Arguments} {flag : Flag} {text : String}
    (holds : arguments.StepsWritable) (given : arguments.assign text flag = some assigned) :
    assigned.StepsWritable := by
  unfold Arguments.assign at given
  split at given
  · cases given
    exact holds
  · obtain ⟨steps, read, rfl⟩ := Option.map_eq_some_iff.mp given
    intro other same
    cases same
    exact Text.wholeNumber?_writable read
  · cases given
    exact holds
  · cases given

theorem Arguments.StepsWritable.clear {cleared : Arguments} {flag : Flag}
    (holds : arguments.StepsWritable) (given : arguments.clear flag = some cleared) :
    cleared.StepsWritable := by
  unfold Arguments.clear at given
  split at given
  · cases given
    exact holds
  · cases given
    nofun
  · cases given
    exact holds
  · cases given

theorem Arguments.StepsWritable.attach {attached : Arguments} {flag : Flag} {text : String}
    (holds : arguments.StepsWritable) (given : arguments.attach text flag = some attached) :
    attached.StepsWritable := by
  unfold Arguments.attach at given
  split at given
  · exact holds.clear given
  · exact holds.assign given

theorem Arguments.StepsWritable.turnOn (holds : arguments.StepsWritable) (flag : Flag) :
    (arguments.turnOn flag).StepsWritable := by
  cases flag <;> exact holds

end Terminal

end StoryGraph
