namespace TwinDiagram.Decimal

/-- The number `mantissa · 2 ^ exponent`; `narrow` when the number below lies half as far away as
the number above. -/
structure Binary where
  mantissa : Nat
  exponent : Int
  narrow : Bool
deriving DecidableEq, Repr

structure Scaled where
  digits : Nat
  exponent : Int
deriving DecidableEq, Repr

inductive Magnitude where
  | nan
  | infinite
  | zero
  | finite (value : Binary)
deriving DecidableEq, Repr

def isNegative (x : Float) : Bool := x.toBits.toNat / Nat.pow 2 63 == 1

def magnitude (x : Float) : Magnitude :=
  let bits := x.toBits.toNat % Nat.pow 2 63
  let fraction := bits % Nat.pow 2 52
  match bits / Nat.pow 2 52 with
  | 0 => if fraction = 0 then .zero else .finite ⟨fraction, -1074, false⟩
  | 2047 => if fraction = 0 then .infinite else .nan
  | e + 1 => .finite ⟨Nat.pow 2 52 + fraction, (e : Int) - 1074, fraction == 0 && e != 0⟩

/-- The quotient of a quarter of `2 ^ b.exponent` and `10 ^ p`, as a fraction. -/
def ratio (b : Binary) (p : Int) : Nat × Nat :=
  let q := b.exponent - 2
  (Nat.pow 2 q.toNat * Nat.pow 10 (-p).toNat, Nat.pow 10 p.toNat * Nat.pow 2 (-q).toNat)

/-- The point of the grid `10 ^ p` nearest to the number, if one reads back as it. The ends of the
interval read back when the mantissa is even. -/
def nearestOn (b : Binary) (p : Int) : Option Nat :=
  let (num, den) := ratio b p
  let value := 4 * b.mantissa * num
  let low := (4 * b.mantissa - if b.narrow then 1 else 2) * num
  let high := (4 * b.mantissa + 2) * num
  let reads (d : Nat) : Bool :=
    if b.mantissa % 2 = 0 then low ≤ d * den && d * den ≤ high
    else low < d * den && d * den < high
  let below := value / den
  let above := below + 1
  match reads below, reads above with
  | false, false => none
  | true, false => some below
  | false, true => some above
  | true, true =>
    if value - below * den < above * den - value then some below
    else if above * den - value < value - below * den then some above
    else if below % 2 = 0 then some below else some above

def search (b : Binary) : (steps : Nat) → (p : Int) → Scaled
  | 0, p => ⟨4 * b.mantissa * (ratio b p).1 / (ratio b p).2, p⟩
  | steps + 1, p =>
    match nearestOn b p with
    | some d => ⟨d, p⟩
    | none => search b steps (p - 1)

/-- The search starts above the number, one decimal order being 3.3219… binary ones, and ends after
the seventeen digits that always suffice. -/
def shortest (b : Binary) : Scaled :=
  search b 22 (((b.mantissa.log2 : Int) + b.exponent) * 30103 / 100000 + 2)

end TwinDiagram.Decimal
