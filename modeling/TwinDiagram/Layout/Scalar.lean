namespace TwinDiagram.Layout

/-- Arithmetic for coordinates. Drawings are made with floating point numbers; over the rationals
the same rules hold exactly. -/
class Scalar (α : Type) extends Add α, Sub α, Mul α, Div α where
  ofNat : Nat → α
  less : α → α → Bool
  isZero : α → Bool

instance : Scalar Float where
  ofNat := Float.ofNat
  less x y := x < y
  isZero x := x == 0.0

instance : Scalar Rat where
  ofNat n := (n : Rat)
  less x y := decide (x < y)
  isZero x := x == 0

namespace Scalar

variable {α : Type} [Scalar α]

def least (x y : α) : α := if less y x then y else x

def greatest (x y : α) : α := if less x y then y else x

def half (x : α) : α := x / ofNat 2

def maximum : List α → α
  | [] => ofNat 0
  | x :: rest => rest.foldl greatest x

end Scalar

end TwinDiagram.Layout
