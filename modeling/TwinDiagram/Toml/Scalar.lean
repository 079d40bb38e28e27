import TwinDiagram.Json.Reader
import TwinDiagram.Toml.Basic

namespace TwinDiagram.Toml

inductive Fault where
  | malformed
  /-- A decimal integer has more digits than are read. -/
  | tooLong
  /-- Lists or tables lie too deep in each other. -/
  | tooDeep
deriving DecidableEq, Repr

abbrev Reading := Except Fault

def isGap (c : Char) : Bool := c == ' ' || c == '\t'

def isGapOrNewline (c : Char) : Bool := isGap c || c == '\n'

def skipGaps (cs : List Char) : List Char := cs.dropWhile isGap

def isControl (c : Char) : Bool := (c.toNat < 0x20 && c != '\t') || c.toNat == 0x7f

def skipComment : List Char → Except Fault (List Char)
  | '#' :: rest =>
    if (rest.takeWhile (· != '\n')).any isControl then .error .malformed
    else .ok (rest.dropWhile (· != '\n'))
  | cs => .ok cs

def hexNumber (ds : List Char) : Option Nat :=
  ds.foldlM (fun n d ↦ (Text.hexValue d).map fun v ↦ n * 16 + v) 0

def codeChar (width : Nat) (cs : List Char) : Reading (List Char × List Char) :=
  let ds := cs.take width
  match hexNumber ds with
  | none => .error .malformed
  | some n =>
    if ds.length = width && n.isValidChar then .ok ([Char.ofNat n], cs.drop width)
    else .error .malformed

def escapes : List (Char × Char) :=
  [('b', '\u0008'), ('t', '\t'), ('n', '\n'), ('f', '\u000c'), ('r', '\r'), ('\u0022', '\u0022'),
    ('\\', '\\')]

def escape : List Char → Reading (List Char × List Char)
  | 'u' :: rest => codeChar 4 rest
  | 'U' :: rest => codeChar 8 rest
  | c :: rest =>
    match escapes.lookup c with
    | some d => .ok ([d], rest)
    | none => .error .malformed
  | [] => .error .malformed

def lineEscape (cs : List Char) : Reading (List Char × List Char) :=
  match cs with
  | c :: _ =>
    if isGapOrNewline c then
      match skipGaps cs with
      | [] => .ok ([], [])
      | '\n' :: rest => .ok ([], rest.dropWhile isGapOrNewline)
      | _ => .error .malformed
    else escape cs
  | [] => .error .malformed

/-- The text up to the closing mark; `done` is read backwards. -/
def basicText (done : List Char) : (steps : Nat) → List Char → Reading (List Char × List Char)
  | 0, _ => .error .malformed
  | steps + 1, cs =>
    match cs with
    | [] => .error .malformed
    | '\u0022' :: rest => .ok (done.reverse, rest)
    | '\\' :: rest => do
      let (c, rest) ← escape rest
      basicText (c ++ done) steps rest
    | c :: rest => if isControl c then .error .malformed else basicText (c :: done) steps rest

def longText (done : List Char) : (steps : Nat) → List Char → Reading (List Char × List Char)
  | 0, _ => .error .malformed
  | steps + 1, cs =>
    match cs with
    | [] => .error .malformed
    | '\u0022' :: '\u0022' :: '\u0022' :: rest => .ok (done.reverse, rest)
    | '\\' :: rest => do
      let (c, rest) ← lineEscape rest
      longText (c ++ done) steps rest
    | c :: rest =>
      if isControl c && c != '\n' then .error .malformed else longText (c :: done) steps rest

def literalText (cs : List Char) : Reading (List Char × List Char) :=
  let s := cs.takeWhile (· != '\'')
  match cs.dropWhile (· != '\'') with
  | [] => .error .malformed
  | _ :: rest => if s.any isControl then .error .malformed else .ok (s, rest)

def longLiteral : List Char → Reading (List Char × List Char)
  | [] => .error .malformed
  | '\'' :: '\'' :: '\'' :: rest => .ok ([], rest)
  | c :: rest =>
    if isControl c && c != '\n' then .error .malformed
    else do
      let (s, rest) ← longLiteral rest
      return (c :: s, rest)

def moreMarks (mark : Char) (s cs : List Char) : List Char × List Char :=
  let n := min 2 (cs.takeWhile (· == mark)).length
  (s ++ List.replicate n mark, cs.drop n)

def dropNewline : List Char → List Char
  | '\n' :: rest => rest
  | cs => cs

def readText? (cs : List Char) : Option (Reading (List Char × List Char)) :=
  match cs with
  | '\u0022' :: '\u0022' :: '\u0022' :: rest => some do
    let (s, rest) ← longText [] (rest.length + 1) (dropNewline rest)
    return moreMarks '\u0022' s rest
  | '\u0022' :: rest => some (basicText [] (rest.length + 1) rest)
  | '\'' :: '\'' :: '\'' :: rest => some do
    let (s, rest) ← longLiteral (dropNewline rest)
    return moreMarks '\'' s rest
  | '\'' :: rest => some (literalText rest)
  | _ => none

abbrev Key := List String

def isBare (c : Char) : Bool := c.isAlphanum || c == '-' || c == '_'

def keyPart (cs : List Char) : Reading (String × List Char) :=
  match cs with
  | '\u0022' :: rest => (basicText [] (rest.length + 1) rest).map fun r ↦ (.ofList r.1, r.2)
  | '\'' :: rest => (literalText rest).map fun r ↦ (.ofList r.1, r.2)
  | _ =>
    match cs.takeWhile isBare with
    | [] => .error .malformed
    | part => .ok (.ofList part, cs.dropWhile isBare)

/-- Parts with dots between them, and gaps around those. -/
def key : (steps : Nat) → List Char → Reading (Key × List Char)
  | 0, _ => .error .malformed
  | steps + 1, cs => do
    let (part, rest) ← keyPart cs
    match skipGaps rest with
    | '.' :: rest =>
      let (parts, rest) ← key steps (skipGaps rest)
      return (part :: parts, rest)
    | rest => return ([part], rest)

def digitRun (isDigit : Char → Bool) : List Char → List Char × List Char
  | '_' :: c :: rest =>
    if isDigit c then
      let (ds, rest) := digitRun isDigit rest
      (c :: ds, rest)
    else ([], '_' :: c :: rest)
  | c :: rest =>
    if isDigit c then
      let (ds, rest) := digitRun isDigit rest
      (c :: ds, rest)
    else ([], c :: rest)
  | [] => ([], [])

def someDigits (isDigit : Char → Bool) (cs : List Char) : Option (List Char × List Char) :=
  match cs with
  | c :: _ => if isDigit c then some (digitRun isDigit cs) else none
  | [] => none

def basedNumber (cs : List Char) : Option (Nat × List Char) :=
  let based (base : Nat) (rest : List Char) :=
    (someDigits (fun c ↦ (Text.hexValue c).any (· < base)) rest).map fun r ↦
      (r.1.foldl (fun n d ↦ n * base + (Text.hexValue d).getD 0) 0, r.2)
  match cs with
  | '0' :: 'x' :: rest => based 16 rest
  | '0' :: 'o' :: rest => based 8 rest
  | '0' :: 'b' :: rest => based 2 rest
  | _ => none

def wholeDigits (cs : List Char) : Option (List Char × List Char) :=
  match cs with
  | '0' :: rest => some (['0'], rest)
  | _ => someDigits Json.isDigit cs

def fraction (cs : List Char) : Option (List Char × List Char) :=
  match cs with
  | '.' :: rest => someDigits Json.isDigit rest
  | _ => none

def exponent (cs : List Char) : Option (Int × List Char) :=
  let signed (sign : Int) (cs : List Char) :=
    (someDigits Json.isDigit cs).map fun r ↦ (sign * Json.natOfDigits r.1, r.2)
  let afterMark (cs : List Char) :=
    match cs with
    | '+' :: rest => signed 1 rest
    | '-' :: rest => signed (-1) rest
    | _ => signed 1 cs
  match cs with
  | 'e' :: rest => afterMark rest
  | 'E' :: rest => afterMark rest
  | _ => none

def magnitude (negative : Bool) (cs : List Char) : Option (Reading (Toml × List Char)) :=
  (wholeDigits cs).map fun (whole, rest) ↦
    let (part, rest) := match fraction rest with
      | some (ds, rest) => (some ds, rest)
      | none => (none, rest)
    let (power, rest) := match exponent rest with
      | some (n, rest) => (some n, rest)
      | none => (none, rest)
    if part.isNone && power.isNone then
      if Json.maxWholeLength < whole.length then .error .tooLong
      else
        let n : Int := Json.natOfDigits whole
        .ok (int (if negative then -n else n), rest)
    else
      let ds := part.getD []
      .ok (decimal (Decimal.toFloat negative (Json.natOfDigits (whole ++ ds))
        (power.getD 0 - ds.length)), rest)

def unsigned (cs : List Char) : Bool × List Char :=
  match cs with
  | '+' :: rest => (false, rest)
  | '-' :: rest => (true, rest)
  | _ => (false, cs)

def readNumber? (cs : List Char) : Option (Reading (Toml × List Char)) :=
  match basedNumber cs with
  | some (n, rest) => some (.ok (int n, rest))
  | none =>
    let (negative, rest) := unsigned cs
    match rest with
    | 'i' :: 'n' :: 'f' :: rest =>
      some (.ok (decimal (if negative then -1.0 / 0.0 else 1.0 / 0.0), rest))
    | 'n' :: 'a' :: 'n' :: rest => some (.ok (decimal (0.0 / 0.0), rest))
    | _ => magnitude negative rest

def fixedNumber (width low high : Nat) (cs : List Char) : Option (Nat × List Char) :=
  let ds := cs.take width
  let n := Json.natOfDigits ds
  if ds.length = width && ds.all Json.isDigit && low ≤ n && n ≤ high then some (n, cs.drop width)
  else none

def mark (c : Char) : List Char → Option (List Char)
  | d :: rest => if d = c then some rest else none
  | [] => none

def micros (cs : List Char) : Nat × List Char :=
  match cs with
  | '.' :: rest =>
    match rest.takeWhile Json.isDigit with
    | [] => (0, cs)
    | ds =>
      (Json.natOfDigits ((ds ++ List.replicate 6 '0').take 6), rest.dropWhile Json.isDigit)
  | _ => (0, cs)

def timeOfDay (cs : List Char) : Option (TimeOfDay × List Char) := do
  let (hour, rest) ← fixedNumber 2 0 23 cs
  let (minute, rest) ← fixedNumber 2 0 59 (← mark ':' rest)
  let (second, rest) ← fixedNumber 2 0 59 (← mark ':' rest)
  let (parts, rest) := micros rest
  return (⟨hour, minute, second, parts⟩, rest)

def zone (cs : List Char) : Option (Offset × List Char) :=
  let distance (sign : Int) (cs : List Char) : Option (Offset × List Char) := do
    let (hours, rest) ← fixedNumber 2 0 23 cs
    let (minutes, rest) ← fixedNumber 2 0 59 (← mark ':' rest)
    return (⟨sign * (hours * 60 + minutes : Nat)⟩, rest)
  match cs with
  | 'Z' :: rest => some (⟨0⟩, rest)
  | 'z' :: rest => some (⟨0⟩, rest)
  | '+' :: rest => distance 1 rest
  | '-' :: rest => distance (-1) rest
  | _ => none

def isTimeMark (c : Char) : Bool := c == 'T' || c == 't' || c == ' '

def day (cs : List Char) : Option (Day × List Char) := do
  let (year, rest) ← fixedNumber 4 0 9999 cs
  let (month, rest) ← fixedNumber 2 1 12 (← mark '-' rest)
  let (d, rest) ← fixedNumber 2 1 31 (← mark '-' rest)
  return (⟨year, month, d⟩, rest)

def afterDay (d : Day) (cs : List Char) : Moment × List Char :=
  match cs with
  | c :: rest =>
    match if isTimeMark c then timeOfDay rest else none with
    | some (t, rest) =>
      match zone rest with
      | some (o, rest) => (.full d t (some o), rest)
      | none => (.full d t none, rest)
    | none => (.day d, cs)
  | [] => (.day d, [])

def readMoment? (cs : List Char) : Option (Reading (Moment × List Char)) :=
  match day cs with
  | some (d, rest) => some (if d.isValid then .ok (afterDay d rest) else .error .malformed)
  | none => (timeOfDay cs).map fun r ↦ .ok (.time r.1, r.2)

def readScalar (cs : List Char) : Reading (Toml × List Char) :=
  match readText? cs with
  | some r => r.map fun r ↦ (text (.ofList r.1), r.2)
  | none =>
    match cs with
    | 't' :: 'r' :: 'u' :: 'e' :: rest => .ok (bool true, rest)
    | 'f' :: 'a' :: 'l' :: 's' :: 'e' :: rest => .ok (bool false, rest)
    | _ =>
      match readMoment? cs with
      | some r => r.map fun r ↦ (moment r.1, r.2)
      | none => (readNumber? cs).getD (.error .malformed)

end TwinDiagram.Toml
