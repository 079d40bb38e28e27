import TwinDiagram.Json.Reader
import TwinDiagram.Text.Blank

namespace TwinDiagram.Interchange

def splitSign : List Char → Bool × List Char
  | '-' :: rest => (true, rest)
  | '+' :: rest => (false, rest)
  | cs => (false, cs)

def underscoresApart : List Char → Bool
  | '_' :: '_' :: _ => false
  | _ :: rest => underscoresApart rest
  | [] => true

def withoutUnderscores (cs : List Char) : Option (List Char) :=
  if cs.head? = some '_' || cs.getLast? = some '_' || !underscoresApart cs then none
  else some (cs.filter (· != '_'))

def readDecimal (negative : Bool) (cs : List Char) : Option Float := do
  let whole := cs.takeWhile Json.isDigit
  let (fraction, rest) := match cs.dropWhile Json.isDigit with
    | '.' :: rest => (rest.takeWhile Json.isDigit, rest.dropWhile Json.isDigit)
    | rest => ([], rest)
  if whole.isEmpty && fraction.isEmpty then none
  let (exponent, rest) ← Json.readExponent rest
  if !rest.isEmpty then none
  return Decimal.toFloat negative (Json.natOfDigits (whole ++ fraction))
    (exponent.getD 0 - fraction.length)

def readPlainFloat (cs : List Char) : Option Float :=
  let (negative, rest) := splitSign cs
  let word := String.ofList (rest.map Char.toLower)
  if word == "inf" || word == "infinity" then some (if negative then -1.0 / 0.0 else 1.0 / 0.0)
  else if word == "nan" then some (0.0 / 0.0)
  else readDecimal negative rest

def readFloat (s : String) : Option Float :=
  readPlainFloat (Text.strip Text.isWhiteSpace s.toList) <|>
    (withoutUnderscores s.toList).bind readPlainFloat

inductive IntegerFault where
  | malformed
  | oversized
deriving DecidableEq, Repr

def readPlainInteger (cs : List Char) : Except IntegerFault Int :=
  let (negative, digits) := match cs with
    | '-' :: rest => (true, rest)
    | cs => (false, cs)
  let whole := digits.takeWhile Json.isDigit
  let length := (if negative then 1 else 0) + whole.length
  if whole.isEmpty || (whole.head? = some '0' && 1 < whole.length) then .error .malformed
  else if Json.maxWholeLength < length then .error .oversized
  else if whole.length < digits.length then .error .malformed
  else
    let n : Int := Json.natOfDigits whole
    .ok (if negative then -n else n)

/-- Drops zeros, and underscores among them, but not the zero in front of a point or at the end. The
last character dropped is `previous`. -/
def afterZeros (previous : Char) : List Char → List Char
  | [] => [previous]
  | c :: rest =>
    if c = '0' || c = '_' then afterZeros c rest
    else if c = '.' then previous :: c :: rest
    else c :: rest

def withoutLeadingZeros : List Char → Option (List Char)
  | [] => none
  | c :: rest =>
    if c = '0' then some (afterZeros c rest)
    else if Json.isDigit c then some (c :: rest)
    else none

def withoutFraction (cs : List Char) : List Char :=
  match cs.dropWhile (· != '.') with
  | '.' :: '0' :: zeros => if zeros.all (· == '0') then cs.takeWhile (· != '.') else cs
  | _ => cs

/-- The integer that a loosely written one stands for: white space around it, a plus sign, zeros in
front, zeros behind a point, underscores. -/
def plainInteger (cs : List Char) : Option (List Char) := do
  let (negative, rest) := splitSign (Text.strip Text.isWhiteSpace cs)
  let digits := withoutFraction (← withoutLeadingZeros rest)
  let digits := (withoutUnderscores digits).getD digits
  return if negative then '-' :: digits else digits

def readInteger (s : String) : Except IntegerFault Int :=
  match readPlainInteger s.toList with
  | .ok n => .ok n
  | .error .oversized => .error .oversized
  | .error .malformed =>
    match plainInteger s.toList with
    | none => .error .malformed
    | some cs => readPlainInteger cs

end TwinDiagram.Interchange
