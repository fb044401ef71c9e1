/-!
Binary numbers of 64 bits by the values they denote: a significand times a
power of two, an infinity, or no number at all. Two zeros are told apart by
their sign. `ofRatio` rounds a quotient to the nearest such number and a tie to
the even significand; a value beyond the largest one becomes infinite.
-/

set_option autoImplicit false

namespace StoryGraph

/-- A number with at most 53 binary digits and an exponent in a fixed range. -/
inductive Binary64 where
  | nan
  | infinite (negative : Bool)
  /-- `significand * 2 ^ exponent` with a sign. -/
  | finite (negative : Bool) (significand : Nat) (exponent : Int)
  deriving DecidableEq, Repr

namespace Binary64

def precision : Nat := 53

def leastExponent : Int := -1074

def exponentEnd : Int := 972

def powerOfTwo (exponent : Nat) : Nat := Nat.pow 2 exponent

def powerOfTen (exponent : Nat) : Nat := Nat.pow 10 exponent

/-- `numerator / denominator`, rounded to the nearest whole number and a tie to the even one. -/
def roundQuotient (numerator denominator : Nat) : Nat :=
  let quotient := numerator / denominator
  let rest := 2 * (numerator % denominator)
  if rest < denominator then quotient
  else if rest = denominator ∧ quotient % 2 = 0 then quotient
  else quotient + 1

def scaled (numerator denominator : Nat) (exponent : Int) : Nat × Nat :=
  if 0 ≤ exponent then (numerator, denominator * powerOfTwo exponent.toNat)
  else (numerator * powerOfTwo (-exponent).toNat, denominator)

/-- The exponent that gives a quotient of positive numbers 53 binary digits, or the
least exponent if that is greater. -/
def exponentOf (numerator denominator : Nat) : Int :=
  let guess : Int := numerator.log2 - denominator.log2 - (precision - 1 : Nat)
  let pair := scaled numerator denominator guess
  let exponent := if pair.1 / pair.2 < powerOfTwo (precision - 1) then guess - 1 else guess
  max exponent leastExponent

def ofRatio (negative : Bool) (numerator denominator : Nat) : Binary64 :=
  if numerator = 0 then .finite negative 0 leastExponent
  else
    let exponent := exponentOf numerator denominator
    let pair := scaled numerator denominator exponent
    let significand := roundQuotient pair.1 pair.2
    let carried := significand = powerOfTwo precision
    let exponent := if carried then exponent + 1 else exponent
    let significand := if carried then powerOfTwo (precision - 1) else significand
    if exponentEnd ≤ exponent then .infinite negative
    else .finite negative significand exponent

def decimalLength (number : Nat) : Nat :=
  if number = 0 then 0 else (Nat.toDigits 10 number).length

/-- The number nearest to `digits * 10 ^ exponent`. Values far outside the range
are settled by the place of their first digit. -/
def ofDecimal (negative : Bool) (digits : Nat) (exponent : Int) : Binary64 :=
  let place := decimalLength digits + exponent
  if digits = 0 ∨ place < -330 then .finite negative 0 leastExponent
  else if 310 < place then .infinite negative
  else if 0 ≤ exponent then ofRatio negative (digits * powerOfTen exponent.toNat) 1
  else ofRatio negative digits (powerOfTen (-exponent).toNat)

/-- The value of a finite number as a quotient of natural numbers, sign apart. -/
def ratio (significand : Nat) (exponent : Int) : Nat × Nat :=
  if 0 ≤ exponent then (significand * powerOfTwo exponent.toNat, 1)
  else (significand, powerOfTwo (-exponent).toNat)

def rational (negative : Bool) (significand : Nat) (exponent : Int) : Rat :=
  let magnitude := (significand : Rat) * (2 : Rat) ^ exponent
  if negative then -magnitude else magnitude

def spanDigits (text : List Char) : List Char × List Char :=
  (text.takeWhile Char.isDigit, text.dropWhile Char.isDigit)

def ofLiteral (negative : Bool) (whole fraction : List Char) (exponent : Int) : Binary64 :=
  ofDecimal negative (Nat.ofDigitChars 10 (whole ++ fraction) 0) (exponent - fraction.length)

/-- A sign, if there is one, and what follows it: `true` for a minus. -/
def takeSign : List Char → Bool × List Char
  | '-' :: rest => (true, rest)
  | '+' :: rest => (false, rest)
  | text => (false, text)

end Binary64

end StoryGraph
