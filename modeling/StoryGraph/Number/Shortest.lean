import StoryGraph.Number.Binary64

/-!
The text of a binary number. It has the fewest decimal digits that read back as
the number; of two such rows of digits the nearer one is taken, and of two that
are equally near the even one. Numbers from `0.0001` up to `10 ^ 16` are written
positionally and keep a `.0` where there is no fraction; others have an exponent
with a sign and at least two digits.
-/

set_option autoImplicit false

namespace StoryGraph.Binary64

/-- How many of the digits of a positive quotient stand before its point; below one
tenth, the zeros behind the point counted negatively. -/
def pointPlace (numerator denominator : Nat) : Int :=
  let whole := numerator / denominator
  if 0 < whole then decimalLength whole
  else
    let reached (zeros : Nat) : Bool := denominator ≤ numerator * powerOfTen (zeros + 1)
    match (List.range 400).find? reached with
    | some zeros => -(zeros : Int)
    | none => 0

/-- The points of the decimal grid with step `10 ^ exponent` on both sides of a
quotient, the nearer one first, of two equally near ones the even one. -/
def neighbours (numerator denominator : Nat) (exponent : Int) : List Nat :=
  let (numerator, denominator) :=
    if 0 ≤ exponent then (numerator, denominator * powerOfTen exponent.toNat)
    else (numerator * powerOfTen (-exponent).toNat, denominator)
  let below := numerator / denominator
  let rest := 2 * (numerator % denominator)
  if rest < denominator ∨ (rest = denominator ∧ below % 2 = 0) then [below, below + 1]
  else [below + 1, below]

/-- The first neighbour on a grid that reads back as the number. -/
def reading? (significand : Nat) (exponent grid : Int) : Option Nat :=
  let (numerator, denominator) := ratio significand exponent
  (neighbours numerator denominator grid).find? fun digits =>
    ofDecimal false digits grid = .finite false significand exponent

/-- The shortest digits of a positive number, and how many of them stand before the point. -/
def shortest (significand : Nat) (exponent : Int) : Nat × Int :=
  let (numerator, denominator) := ratio significand exponent
  let place := pointPlace numerator denominator
  let found := (List.range 17).findSome? fun extra =>
    let grid : Int := place - (extra + 1 : Nat)
    (reading? significand exponent grid).map fun digits => (digits, grid)
  match found with
  | some (digits, grid) => (digits, decimalLength digits + grid)
  | none => (numerator / denominator, place)

def significantDigits (number : Nat) : List Char :=
  ((Nat.toDigits 10 number).reverse.dropWhile (· = '0')).reverse

def exponentText (exponent : Int) : List Char :=
  let digits := Nat.toDigits 10 exponent.natAbs
  (if exponent < 0 then '-' else '+') :: (if digits.length < 2 then '0' :: digits else digits)

/-- Digits with their point, of which `place` digits stand before it. -/
def layout (digits : List Char) (place : Int) : List Char :=
  if -3 ≤ place ∧ place ≤ 16 then
    if place ≤ 0 then '0' :: '.' :: (List.replicate (-place).toNat '0' ++ digits)
    else
      let whole := digits.take place.toNat
      let fraction := digits.drop place.toNat
      whole ++ List.replicate (place.toNat - whole.length) '0' ++
        '.' :: (if fraction.isEmpty then ['0'] else fraction)
  else
    let fraction := digits.drop 1
    digits.take 1 ++ (if fraction.isEmpty then [] else '.' :: fraction) ++
      'e' :: exponentText (place - 1)

def text : Binary64 → String
  | .nan => "nan"
  | .infinite negative => if negative then "-inf" else "inf"
  | .finite negative significand exponent =>
      let sign := if negative then ['-'] else []
      if significand = 0 then String.ofList (sign ++ ['0', '.', '0'])
      else
        let (digits, place) := shortest significand exponent
        String.ofList (sign ++ layout (significantDigits digits) place)

end StoryGraph.Binary64
