import TwinDiagram.Decimal.Shortest

namespace TwinDiagram.Decimal

structure Style where
  /-- The least decimal exponent written in full. -/
  firstFull : Int
  /-- The least decimal exponent above it that is written as an exponent. -/
  firstExponent : Int
  /-- The least number of digits of an exponent. -/
  exponentWidth : Nat
  nan : String
  infinity : String

def padded (width n : Nat) : List Char :=
  let ds := Nat.toDigits 10 n
  List.replicate (width - ds.length) '0' ++ ds

def writeScaled (style : Style) (s : Scaled) : List Char :=
  let ds := Nat.toDigits 10 s.digits
  let order := s.exponent + ds.length - 1
  if style.firstFull ≤ order && order < style.firstExponent then
    if order < 0 then '0' :: '.' :: List.replicate (-order - 1).toNat '0' ++ ds
    else
      let whole := (order + 1).toNat
      if ds.length ≤ whole then ds ++ List.replicate (whole - ds.length) '0' ++ ['.', '0']
      else ds.take whole ++ '.' :: ds.drop whole
  else
    let tail := ds.drop 1
    ds.take 1 ++ (if tail.isEmpty then [] else '.' :: tail) ++
      'e' :: (if order < 0 then '-' else '+') :: padded style.exponentWidth order.natAbs

def write (style : Style) (x : Float) : String :=
  let signed (cs : List Char) : String := .ofList (if isNegative x then '-' :: cs else cs)
  match magnitude x with
  | .nan => style.nan
  | .infinite => signed style.infinity.toList
  | .zero => signed ['0', '.', '0']
  | .finite b => signed (writeScaled style (shortest b))

def roundWhole (b : Binary) : Nat :=
  if 0 ≤ b.exponent then b.mantissa * Nat.pow 2 b.exponent.toNat
  else
    let unit := Nat.pow 2 (-b.exponent).toNat
    let low := b.mantissa / unit
    let rest := 2 * (b.mantissa % unit)
    if rest < unit || (rest == unit && low % 2 == 0) then low else low + 1

def writeWhole (x : Float) : String :=
  let signed (cs : List Char) : String := .ofList (if isNegative x then '-' :: cs else cs)
  match magnitude x with
  | .nan => "nan"
  | .infinite => signed ['i', 'n', 'f']
  | .zero => signed ['0']
  | .finite b => signed (Nat.toDigits 10 (roundWhole b))

def truncate (x : Float) : Option Int :=
  match magnitude x with
  | .nan => none
  | .infinite => none
  | .zero => some 0
  | .finite b =>
    let n := if 0 ≤ b.exponent then b.mantissa * Nat.pow 2 b.exponent.toNat
      else b.mantissa / Nat.pow 2 (-b.exponent).toNat
    some (if isNegative x then -(n : Int) else n)

/-- The nearest number to `± digits · 10 ^ exponent`. Beyond the range of numbers the digits are
not expanded. -/
def toFloat (negative : Bool) (digits : Nat) (exponent : Int) : Float :=
  let order := exponent + (Nat.toDigits 10 digits).length
  let x :=
    if digits = 0 || order < -330 then 0.0
    else if 310 < order then 1.0 / 0.0
    else if 0 ≤ exponent then Float.ofScientific (digits * Nat.pow 10 exponent.toNat) false 0
    else Float.ofScientific digits true exponent.natAbs
  if negative then -x else x

def ofInt? (n : Int) : Option Float :=
  let x := toFloat (n < 0) n.natAbs 0
  if x.isFinite then some x else none

end TwinDiagram.Decimal
