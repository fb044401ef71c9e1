import StoryGraph.Number.Binary64

/-!
Numbers as stories hold them: whole numbers of any size and binary numbers of
64 bits. Both lie on one line and are compared there by their exact values, so
no comparison rounds; NaN lies nowhere and is neither equal to, nor less or
greater than, any number.
-/

set_option autoImplicit false

namespace StoryGraph

/-- A point of the number line with its two ends. -/
inductive Point where
  | leftEnd
  | inner (value : Rat)
  | rightEnd
  deriving DecidableEq, Repr

def Point.before : Point → Point → Bool
  | .leftEnd, .leftEnd => false
  | .leftEnd, _ => true
  | .inner value, .inner other => decide (value < other)
  | .inner _, .rightEnd => true
  | .inner _, .leftEnd => false
  | .rightEnd, _ => false

inductive Number where
  | int (value : Int)
  | real (value : Binary64)
  deriving DecidableEq, Repr

namespace Number

def point? : Number → Option Point
  | .int value => some (.inner value)
  | .real .nan => none
  | .real (.infinite negative) => some (if negative then .leftEnd else .rightEnd)
  | .real (.finite negative significand exponent) =>
      some (.inner (Binary64.rational negative significand exponent))

def same (left right : Number) : Bool :=
  match left.point?, right.point? with
  | some leftPoint, some rightPoint => leftPoint = rightPoint
  | _, _ => false

def less (left right : Number) : Bool :=
  match left.point?, right.point? with
  | some leftPoint, some rightPoint => leftPoint.before rightPoint
  | _, _ => false

end Number

end StoryGraph
