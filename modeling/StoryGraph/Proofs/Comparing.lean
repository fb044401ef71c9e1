import Mathlib.Algebra.Order.Ring.Unbundled.Rat
import Mathlib.Data.String.Basic
import Mathlib.Order.WithBot
import StoryGraph.Comparison

/-!
The laws of comparison. A scalar is compared by its weight: a number by its place among the
rationals and the two infinities, a string by its code points, nil and a boolean by themselves. NaN
has no weight. Two scalars are equal if they have one weight, so that the laws of equality are those
of equality among weights, and equal scalars cannot be told apart. Numbers are below one another as
their places are, and strings as their code points, so that the laws of order are those of two
linear orders.
-/

set_option autoImplicit false

namespace StoryGraph

section places

/-- Where a point lies among the rationals and the two infinities. -/
def Point.place : Point → WithBot (WithTop Rat)
  | .leftEnd => ⊥
  | .inner value => ((value : WithTop Rat) : WithBot (WithTop Rat))
  | .rightEnd => ((⊤ : WithTop Rat) : WithBot (WithTop Rat))

theorem Point.place_injective : Function.Injective Point.place := by
  intro point other same
  cases point <;> cases other <;> simp_all [place]

@[simp] theorem Point.before_iff {point other : Point} :
    point.before other = true ↔ point.place < other.place := by
  have inside (value : Rat) : ((value : WithTop Rat) : WithBot (WithTop Rat)) < ⊤ :=
    WithBot.coe_lt_coe.mpr (WithTop.coe_lt_top value)
  cases point <;> cases other <;> simp [before, place, inside]

theorem Number.same_iff {left right : Number} :
    left.same right = true ↔ ∃ point, left.point? = some point ∧ right.point? = some point := by
  cases here : left.point? <;> cases there : right.point? <;> simp [same, here, there, eq_comm]

theorem Number.less_iff {left right : Number} :
    left.less right = true ↔
      ∃ lower upper, left.point? = some lower ∧ right.point? = some upper ∧
        lower.place < upper.place := by
  cases here : left.point? <;> cases there : right.point? <;>
    simp [less, here, there, Point.before_iff]

@[simp] theorem Number.point?_eq_none_iff {number : Number} :
    number.point? = none ↔ number = .real .nan := by
  unfold point?
  split <;> simp_all

@[simp] theorem Text.map_toNat_lt_iff {left right : List Char} :
    left.map Char.toNat < right.map Char.toNat ↔ left < right := by
  induction left generalizing right with
  | nil => cases right <;> simp
  | cons letter rest inductionHypothesis =>
      cases right with
      | nil => simp
      | cons other others =>
          have sameLetter : letter.toNat = other.toNat ↔ letter = other := Char.toNat_inj
          have lowerLetter : letter.toNat < other.toNat ↔ letter < other := Iff.rfl
          simp only [List.map_cons, List.cons_lt_cons_iff, inductionHypothesis, sameLetter,
            lowerLetter]

end places

/-- What a scalar is compared by. -/
inductive Weight where
  | nil
  | boolean (value : Bool)
  | number (place : WithBot (WithTop Rat))
  | string (codes : List Nat)

def Weight.kind : Weight → Kind
  | .nil => .nil
  | .boolean _ => .boolean
  | .number _ => .number
  | .string _ => .string

/-- Whether things of two kinds can have an order between them: two numbers or two strings. -/
def Kind.Orderable (kind other : Kind) : Prop :=
  (kind = .number ∧ other = .number) ∨ (kind = .string ∧ other = .string)

instance (kind other : Kind) : Decidable (kind.Orderable other) :=
  inferInstanceAs (Decidable (_ ∨ _))

theorem Kind.Orderable.symm {kind other : Kind} (orderable : kind.Orderable other) :
    other.Orderable kind :=
  orderable.imp And.symm And.symm

/-- Numbers and strings have an order, each for themselves. -/
inductive Weight.Below : Weight → Weight → Prop where
  | number {place other : WithBot (WithTop Rat)} (lower : place < other) :
      Below (.number place) (.number other)
  | string {codes others : List Nat} (lower : codes < others) :
      Below (.string codes) (.string others)

namespace Weight

variable {weight other further : Weight}

theorem eq_number_of_kind (isNumber : weight.kind = .number) :
    ∃ place, weight = .number place := by
  cases weight with
  | number place => exact ⟨place, rfl⟩
  | _ => cases isNumber

theorem eq_string_of_kind (isString : weight.kind = .string) :
    ∃ codes, weight = .string codes := by
  cases weight with
  | string codes => exact ⟨codes, rfl⟩
  | _ => cases isString

theorem Below.irrefl : ¬ weight.Below weight := by
  intro below
  cases below with
  | number lower => exact lt_irrefl _ lower
  | string lower => exact lt_irrefl _ lower

theorem Below.trans (below : weight.Below other) (above : other.Below further) :
    weight.Below further := by
  cases below with
  | number lower =>
      cases above with
      | number higher => exact .number (lower.trans higher)
  | string lower =>
      cases above with
      | string higher => exact .string (lower.trans higher)

theorem Below.orderable (below : weight.Below other) : weight.kind.Orderable other.kind := by
  cases below with
  | number => exact .inl ⟨rfl, rfl⟩
  | string => exact .inr ⟨rfl, rfl⟩

theorem below_or_same_or_above (orderable : weight.kind.Orderable other.kind) :
    weight.Below other ∨ weight = other ∨ other.Below weight := by
  rcases orderable with ⟨here, there⟩ | ⟨here, there⟩
  · obtain ⟨place, rfl⟩ := eq_number_of_kind here
    obtain ⟨otherPlace, rfl⟩ := eq_number_of_kind there
    rcases lt_trichotomy place otherPlace with lower | same | higher
    · exact .inl (.number lower)
    · exact .inr (.inl (congrArg _ same))
    · exact .inr (.inr (.number higher))
  · obtain ⟨codes, rfl⟩ := eq_string_of_kind here
    obtain ⟨otherCodes, rfl⟩ := eq_string_of_kind there
    rcases lt_trichotomy codes otherCodes with lower | same | higher
    · exact .inl (.string lower)
    · exact .inr (.inl (congrArg _ same))
    · exact .inr (.inr (.string higher))

end Weight

namespace Scalar

/-- NaN weighs nothing. -/
def weight? : Scalar → Option Weight
  | .nil => some .nil
  | .boolean value => some (.boolean value)
  | .number value => value.point?.map fun point => .number point.place
  | .string value => some (.string (value.toList.map Char.toNat))

def isNaN (scalar : Scalar) : Bool := scalar = .number (.real .nan)

/-- Whether two scalars weigh the same. -/
def Same (left right : Scalar) : Prop :=
  ∃ weight, left.weight? = some weight ∧ right.weight? = some weight

/-- Whether a scalar weighs less than another one. -/
def Below (left right : Scalar) : Prop :=
  ∃ lower upper, left.weight? = some lower ∧ right.weight? = some upper ∧ lower.Below upper

/-- Whether there can be an order between two scalars. -/
abbrev Orderable (left right : Scalar) : Prop := left.kind.Orderable right.kind

def equal (left right : Scalar) : Bool := (Value.scalar left).equals (.scalar right)

def less : Scalar → Scalar → Bool
  | .number left, .number right => left.less right
  | .string left, .string right => left < right
  | _, _ => false

def compare (left : Scalar) (comparison : Comparison) (right : Scalar) : Except Mismatch Bool :=
  comparison.holds (.scalar left) (.scalar right)

variable {a b c : Scalar} {comparison : Comparison}

theorem kind_of_weight {weight : Weight} (weighs : a.weight? = some weight) :
    weight.kind = a.kind := by
  cases a with
  | number value =>
      obtain ⟨_, _, rfl⟩ := Option.map_eq_some_iff.mp weighs
      rfl
  | _ =>
      cases weighs
      rfl

@[simp] theorem weight?_eq_none_iff : a.weight? = none ↔ a.isNaN = true := by
  cases a <;> simp [weight?, isNaN, Number.point?_eq_none_iff]

@[simp] theorem string_weight_inj {left right : String} :
    left.toList.map Char.toNat = right.toList.map Char.toNat ↔ left = right := by
  rw [List.map_inj_right fun _ _ => Char.toNat_inj.mp, String.toList_inj]

/-- Numbers weigh the same if they lie at one point. -/
@[simp] theorem same_number_iff {left right : Number} :
    Same (.number left) (.number right) ↔ left.same right = true := by
  rw [Number.same_iff]
  constructor
  · intro same
    obtain ⟨weight, here, there⟩ := same
    obtain ⟨point, lies, rfl⟩ := Option.map_eq_some_iff.mp here
    obtain ⟨other, otherLies, same⟩ := Option.map_eq_some_iff.mp there
    obtain rfl := Point.place_injective (Weight.number.inj same)
    exact ⟨other, lies, otherLies⟩
  · intro same
    obtain ⟨point, here, there⟩ := same
    exact ⟨.number point.place, by simp [weight?, here], by simp [weight?, there]⟩

@[simp] theorem below_number_iff {left right : Number} :
    Below (.number left) (.number right) ↔ left.less right = true := by
  rw [Number.less_iff]
  constructor
  · intro below
    obtain ⟨_, _, here, there, below⟩ := below
    obtain ⟨lower, lies, rfl⟩ := Option.map_eq_some_iff.mp here
    obtain ⟨upper, otherLies, rfl⟩ := Option.map_eq_some_iff.mp there
    cases below with
    | number under => exact ⟨lower, upper, lies, otherLies, under⟩
  · intro less
    obtain ⟨lower, upper, here, there, under⟩ := less
    exact ⟨.number lower.place, .number upper.place, by simp [weight?, here],
      by simp [weight?, there], .number under⟩

@[simp] theorem below_string_iff {left right : String} :
    Below (.string left) (.string right) ↔ left < right := by
  rw [String.lt_iff_toList_lt, ← Text.map_toNat_lt_iff]
  constructor
  · intro below
    obtain ⟨_, _, here, there, below⟩ := below
    cases here
    cases there
    cases below with
    | string under => exact under
  · intro under
    exact ⟨_, _, rfl, rfl, .string under⟩

theorem kind_eq_of_same (same : a.Same b) : a.kind = b.kind := by
  obtain ⟨weight, here, there⟩ := same
  exact (kind_of_weight here).symm.trans (kind_of_weight there)

theorem orderable_of_below (below : a.Below b) : a.Orderable b := by
  obtain ⟨lower, upper, here, there, below⟩ := below
  have orderable := below.orderable
  rwa [kind_of_weight here, kind_of_weight there] at orderable

@[simp] theorem equal_string (left right : String) :
    equal (.string left) (.string right) = decide (left = right) := by
  simp [equal, Value.equals]

theorem equal_of_kinds_apart (apart : a.kind ≠ b.kind) : a.equal b = false := by
  cases a <;> cases b <;> simp_all [equal, Value.equals, kind]

@[simp] theorem equal_iff : a.equal b = true ↔ a.Same b := by
  by_cases kinds : a.kind = b.kind
  · cases a with
    | nil =>
        cases b <;> cases kinds
        exact iff_of_true rfl ⟨.nil, rfl, rfl⟩
    | boolean left =>
        cases b <;> cases kinds
        simp [equal, Value.equals, Same, weight?, eq_comm]
    | number left =>
        cases b <;> cases kinds
        exact same_number_iff.symm
    | string left =>
        cases b <;> cases kinds
        simp [equal_string, Same, weight?, string_weight_inj, eq_comm]
  · rw [equal_of_kinds_apart kinds]
    exact iff_of_false nofun fun same => kinds (kind_eq_of_same same)

@[simp] theorem less_iff : a.less b = true ↔ a.Below b := by
  constructor
  · intro under
    unfold less at under
    split at under
    · exact below_number_iff.mpr under
    · exact below_string_iff.mpr (of_decide_eq_true under)
    · cases under
  · intro below
    rcases orderable_of_below below with ⟨here, there⟩ | ⟨here, there⟩
    · cases a <;> cases here
      cases b <;> cases there
      exact below_number_iff.mp below
    · cases a <;> cases here
      cases b <;> cases there
      exact decide_eq_true (below_string_iff.mp below)

/-- What a comparison gives depends on three questions, and on whether there is an order. -/
theorem compare_eq (a b : Scalar) (comparison : Comparison) :
    a.compare comparison b =
      if comparison.isOrdering ∧ ¬ a.Orderable b then .error ⟨.scalar a, comparison, .scalar b⟩
      else .ok (comparison.ordered (a.less b) (a.equal b) (b.less a)) := by
  cases comparison with
  | equal => rfl
  | notEqual => rfl
  | _ =>
      cases a with
      | string left =>
          cases b with
          | string right =>
              rw [equal_string]
              rfl
          | _ => rfl
      | _ => cases b <;> rfl

theorem compare_of_orderable (orderable : a.Orderable b) (comparison : Comparison) :
    a.compare comparison b = .ok (comparison.ordered (a.less b) (a.equal b) (b.less a)) := by
  rw [compare_eq, if_neg fun refused => refused.2 orderable]

@[simp] theorem compare_equal (a b : Scalar) : a.compare .equal b = .ok (a.equal b) := rfl

@[simp] theorem compare_equal_iff : a.compare .equal b = .ok true ↔ a.Same b := by
  simp

@[simp] theorem compare_less_iff : a.compare .less b = .ok true ↔ a.Below b := by
  by_cases orderable : a.Orderable b
  · rw [compare_of_orderable orderable, Except.ok.injEq]
    exact less_iff
  · have apart : ¬ a.Below b := fun below => orderable (orderable_of_below below)
    rw [compare_eq, if_pos ⟨rfl, orderable⟩]
    exact iff_of_false nofun apart

theorem compare_eq_error_iff (ordering : comparison.isOrdering = true) :
    (∃ mismatch, a.compare comparison b = .error mismatch) ↔ ¬ a.Orderable b := by
  rw [compare_eq]
  by_cases orderable : a.Orderable b
  · simp [orderable]
  · simp [orderable, ordering]

section weighing

theorem Same.symm (same : a.Same b) : b.Same a := by
  obtain ⟨weight, here, there⟩ := same
  exact ⟨weight, there, here⟩

theorem Same.trans (same : a.Same b) (further : b.Same c) : a.Same c := by
  obtain ⟨weight, here, there⟩ := same
  obtain ⟨other, again, last⟩ := further
  obtain rfl := Option.some.inj (there.symm.trans again)
  exact ⟨weight, here, last⟩

theorem Same.weight? (same : a.Same b) : a.weight? = b.weight? := by
  obtain ⟨weight, here, there⟩ := same
  exact here.trans there.symm

theorem isNaN_eq_false_iff : a.isNaN = false ↔ ∃ weight, a.weight? = some weight := by
  rw [← Bool.not_eq_true, ← weight?_eq_none_iff, ← ne_eq, Option.ne_none_iff_exists']

@[simp] theorem same_self_iff : a.Same a ↔ a.isNaN = false := by
  rw [isNaN_eq_false_iff, Same]
  simp only [and_self]

theorem Same.weighs (same : a.Same b) : a.isNaN = false ∧ b.isNaN = false := by
  obtain ⟨weight, here, there⟩ := same
  exact ⟨isNaN_eq_false_iff.mpr ⟨weight, here⟩, isNaN_eq_false_iff.mpr ⟨weight, there⟩⟩

theorem Below.weighs (below : a.Below b) : a.isNaN = false ∧ b.isNaN = false := by
  obtain ⟨lower, upper, here, there, _⟩ := below
  exact ⟨isNaN_eq_false_iff.mpr ⟨lower, here⟩, isNaN_eq_false_iff.mpr ⟨upper, there⟩⟩

theorem Below.trans (below : a.Below b) (above : b.Below c) : a.Below c := by
  obtain ⟨lower, upper, here, there, under⟩ := below
  obtain ⟨middle, top, again, last, underTop⟩ := above
  obtain rfl := Option.some.inj (there.symm.trans again)
  exact ⟨lower, top, here, last, under.trans underTop⟩

theorem Below.asymm (below : a.Below b) : ¬ b.Below a := by
  intro above
  obtain ⟨_, _, here, there, under⟩ := below.trans above
  obtain rfl := Option.some.inj (here.symm.trans there)
  exact under.irrefl

theorem Below.not_same (below : a.Below b) : ¬ a.Same b := by
  intro same
  obtain ⟨_, _, here, there, under⟩ := below
  rw [same.weight?] at here
  obtain rfl := Option.some.inj (here.symm.trans there)
  exact under.irrefl

theorem below_or_same_or_above (orderable : a.Orderable b) (weighs : a.isNaN = false)
    (otherWeighs : b.isNaN = false) : a.Below b ∨ a.Same b ∨ b.Below a := by
  obtain ⟨weight, here⟩ := isNaN_eq_false_iff.mp weighs
  obtain ⟨other, there⟩ := isNaN_eq_false_iff.mp otherWeighs
  rw [Orderable, ← kind_of_weight here, ← kind_of_weight there] at orderable
  rcases Weight.below_or_same_or_above orderable with below | rfl | above
  · exact .inl ⟨weight, other, here, there, below⟩
  · exact .inr (.inl ⟨weight, here, there⟩)
  · exact .inr (.inr ⟨other, weight, there, here, above⟩)

theorem equal_comm (a b : Scalar) : a.equal b = b.equal a := by
  rw [Bool.eq_iff_iff, equal_iff, equal_iff]
  exact ⟨Same.symm, Same.symm⟩

theorem Below.answers (below : a.Below b) :
    a.less b = true ∧ a.equal b = false ∧ b.less a = false := by
  refine ⟨less_iff.mpr below, ?_, ?_⟩ <;> rw [Bool.eq_false_iff]
  · exact fun same => below.not_same (equal_iff.mp same)
  · exact fun above => below.asymm (less_iff.mp above)

theorem Same.answers (same : a.Same b) :
    a.less b = false ∧ a.equal b = true ∧ b.less a = false := by
  refine ⟨?_, equal_iff.mpr same, ?_⟩ <;> rw [Bool.eq_false_iff]
  · exact fun below => (less_iff.mp below).not_same same
  · exact fun above => (less_iff.mp above).not_same same.symm

theorem one_of_three (orderable : a.Orderable b) (weighs : a.isNaN = false)
    (otherWeighs : b.isNaN = false) : [a.less b, a.equal b, b.less a].count true = 1 := by
  rcases below_or_same_or_above orderable weighs otherWeighs with below | same | above
  · obtain ⟨less, equal, greater⟩ := below.answers
    rw [less, equal, greater]
    rfl
  · obtain ⟨less, equal, greater⟩ := same.answers
    rw [less, equal, greater]
    rfl
  · obtain ⟨greater, equal, less⟩ := above.answers
    rw [less, equal_comm, equal, greater]
    rfl

/-- None of the three holds with NaN. -/
theorem none_of_three (nan : a.isNaN = true ∨ b.isNaN = true) :
    a.less b = false ∧ a.equal b = false ∧ b.less a = false := by
  have weightless : ¬ (a.isNaN = false ∧ b.isNaN = false) := by
    rcases nan with here | there
    · simp [here]
    · simp [there]
  refine ⟨?_, ?_, ?_⟩ <;> rw [Bool.eq_false_iff]
  · exact fun less => weightless (less_iff.mp less).weighs
  · exact fun same => weightless (equal_iff.mp same).weighs
  · exact fun greater => weightless (less_iff.mp greater).weighs.symm

/-- Equal scalars stand alike to any other one. -/
theorem Same.alike (same : a.Same b) (c : Scalar) :
    a.equal c = b.equal c ∧ a.less c = b.less c ∧ c.less a = c.less b := by
  refine ⟨?_, ?_, ?_⟩ <;> rw [Bool.eq_iff_iff]
  · simp [Scalar.Same, same.weight?]
  · simp [Below, same.weight?]
  · simp [Below, same.weight?]

end weighing

/-- How "equal" and "not equal" behave. -/
structure EqualityLaws (a b c : Scalar) : Prop where
  /-- Numbers are equal by their exact values, strings by their code points. -/
  exact : a.compare .equal b = .ok true ↔ a.Same b
  negated : ∃ same, a.compare .equal b = .ok same ∧ a.compare .notEqual b = .ok !same
  comm : a.compare .equal b = b.compare .equal a
  trans : a.compare .equal b = .ok true → b.compare .equal c = .ok true →
    a.compare .equal c = .ok true
  self : a.compare .equal a = .ok !a.isNaN
  apart : a.kind ≠ b.kind → a.compare .equal b = .ok false

/-- How the four operators of order behave. -/
structure OrderLaws (a b c : Scalar) : Prop where
  exact : a.compare .less b = .ok true ↔ a.Below b
  refused : ∀ comparison : Comparison, comparison.isOrdering = true →
    ((∃ mismatch, a.compare comparison b = .error mismatch) ↔ ¬ a.Orderable b) ∧
      ((∃ mismatch, b.compare comparison a = .error mismatch) ↔ ¬ a.Orderable b)
  one : a.Orderable b → a.isNaN = false → b.isNaN = false →
    ∃ less same greater, a.compare .less b = .ok less ∧ a.compare .equal b = .ok same ∧
      a.compare .greater b = .ok greater ∧ [less, same, greater].count true = 1
  joined : a.Orderable b →
    ∃ less same greater, a.compare .less b = .ok less ∧ a.compare .equal b = .ok same ∧
      a.compare .greater b = .ok greater ∧ a.compare .lessOrEqual b = .ok (less || same) ∧
      a.compare .greaterOrEqual b = .ok (greater || same)
  turned : (a.compare .less b).toOption = (b.compare .greater a).toOption
  trans : a.compare .less b = .ok true → b.compare .less c = .ok true →
    a.compare .less c = .ok true
  nan : a.isNaN = true ∨ b.isNaN = true →
    a.compare .equal b = .ok false ∧
      (a.Orderable b → ∀ comparison, comparison ≠ .notEqual →
        a.compare comparison b = .ok false)

theorem equalityLaws (a b c : Scalar) : EqualityLaws a b c where
  exact := compare_equal_iff
  negated := ⟨a.equal b, rfl, rfl⟩
  comm := congrArg _ (equal_comm a b)
  trans := by
    intro same further
    rw [compare_equal_iff] at same further ⊢
    exact same.trans further
  self := by
    rw [compare_equal, Except.ok.injEq, Bool.eq_iff_iff, equal_iff, same_self_iff]
    simp
  apart := fun kinds => congrArg _ (equal_of_kinds_apart kinds)

theorem orderLaws (a b c : Scalar) : OrderLaws a b c where
  exact := compare_less_iff
  refused := by
    intro comparison ordering
    have flip : b.Orderable a ↔ a.Orderable b := ⟨Kind.Orderable.symm, Kind.Orderable.symm⟩
    rw [compare_eq_error_iff ordering, compare_eq_error_iff ordering, flip]
    exact ⟨Iff.rfl, Iff.rfl⟩
  one := by
    intro orderable weighs otherWeighs
    exact ⟨a.less b, a.equal b, b.less a, compare_of_orderable orderable _, rfl,
      compare_of_orderable orderable _, one_of_three orderable weighs otherWeighs⟩
  joined := by
    intro orderable
    exact ⟨a.less b, a.equal b, b.less a, compare_of_orderable orderable _, rfl,
      compare_of_orderable orderable _, compare_of_orderable orderable _,
      compare_of_orderable orderable _⟩
  turned := by
    by_cases orderable : a.Orderable b
    · rw [compare_of_orderable orderable, compare_of_orderable orderable.symm]
      rfl
    · have flipped : ¬ b.Orderable a := fun other => orderable other.symm
      rw [compare_eq, if_pos ⟨rfl, orderable⟩, compare_eq, if_pos ⟨rfl, flipped⟩]
      rfl
  trans := by
    intro below above
    rw [compare_less_iff] at below above ⊢
    exact below.trans above
  nan := by
    intro nan
    obtain ⟨notLess, notEqual, notGreater⟩ := none_of_three nan
    refine ⟨congrArg _ notEqual, ?_⟩
    intro orderable comparison negated
    rw [compare_of_orderable orderable, notLess, notEqual, notGreater]
    cases comparison <;> simp_all [Comparison.ordered]

/-- Comparison obeys the laws of an equality that never crosses kinds and of an order that numbers
and strings have each for themselves, by exact values and by code points. NaN is outside of both.
Equal scalars can be put for one another, on either side of any operator. -/
theorem compare_lawful (a b c : Scalar) :
    EqualityLaws a b c ∧ OrderLaws a b c ∧
      (a.compare .equal b = .ok true → ∀ comparison : Comparison,
        (a.compare comparison c).toOption = (b.compare comparison c).toOption ∧
          (c.compare comparison a).toOption = (c.compare comparison b).toOption) := by
  refine ⟨equalityLaws a b c, orderLaws a b c, ?_⟩
  intro same comparison
  rw [compare_equal_iff] at same
  obtain ⟨equal, less, greater⟩ := same.alike c
  have turned : c.equal a = c.equal b := by rw [equal_comm, equal, equal_comm]
  simp only [compare_eq, Orderable, kind_eq_of_same same, equal, less, greater, turned]
  constructor <;> split <;> rfl

/-- The whole number after `2 ^ 53` is rounded to `2 ^ 53` where it is made a binary number. It is
still greater than that number, whole or binary, and NaN is not. -/
theorem compare_lawful_beyond_precision :
    let whole := Scalar.number (.int 9007199254740992)
    let binary := Scalar.number (.real (.finite false 4503599627370496 1))
    let next := Scalar.number (.int 9007199254740993)
    let nan := Scalar.number (.real .nan)
    whole.compare .equal binary = .ok true ∧ binary.compare .less next = .ok true ∧
      (whole.compare .less next).toOption = some true ∧
      nan.compare .greaterOrEqual next = .ok false ∧
      ∃ mismatch, next.compare .less .nil = .error mismatch := by
  intro whole binary next nan
  have sameValue : whole.equal binary = true := by decide +kernel
  have lowerValue : binary.less next = true := by decide +kernel
  have same : whole.compare .equal binary = .ok true := congrArg _ sameValue
  have below : binary.compare .less next = .ok true := congrArg _ lowerValue
  obtain ⟨_, _, alike⟩ := compare_lawful whole binary next
  obtain ⟨_, orderWithNaN, _⟩ := compare_lawful nan next next
  obtain ⟨_, orderWithNil, _⟩ := compare_lawful next .nil next
  refine ⟨same, below, (alike same .less).1.trans (congrArg _ below), ?_, ?_⟩
  · exact (orderWithNaN.nan (.inl rfl)).2 (.inl ⟨rfl, rfl⟩) _ nofun
  · exact (orderWithNil.refused .less rfl).1.mpr (by decide)

end Scalar

end StoryGraph
