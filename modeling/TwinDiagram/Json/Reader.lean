import TwinDiagram.Decimal.Style
import TwinDiagram.Json.Basic
import TwinDiagram.Text.Hex

namespace TwinDiagram.Json

def isSpace (c : Char) : Bool := c == ' ' || c == '\n' || c == '\r' || c == '\t'

def skipSpace (cs : List Char) : List Char := cs.dropWhile isSpace

def isDigit (c : Char) : Bool := '0' ≤ c && c ≤ '9'

def natOfDigits (ds : List Char) : Nat := ds.foldl (fun n d ↦ n * 10 + (d.toNat - 0x30)) 0

def readUnit (cs : List Char) : Option (Nat × List Char) :=
  match cs with
  | a :: b :: c :: d :: rest => do
    let a ← Text.hexValue a
    let b ← Text.hexValue b
    let c ← Text.hexValue c
    let d ← Text.hexValue d
    return (((a * 16 + b) * 16 + c) * 16 + d, rest)
  | _ => none

def readUnicode (cs : List Char) : Option (Char × List Char) :=
  match readUnit cs with
  | none => none
  | some (u, rest) =>
    if u < 0xd800 || 0xe000 ≤ u then some (Char.ofNat u, rest)
    else if 0xdc00 ≤ u then none
    else match rest with
      | '\\' :: 'u' :: rest =>
        match readUnit rest with
        | none => none
        | some (v, rest) =>
          if 0xdc00 ≤ v && v < 0xe000 then
            some (Char.ofNat (0x10000 + (u - 0xd800) * 0x400 + (v - 0xdc00)), rest)
          else none
      | _ => none

def readEscape (cs : List Char) : Option (Char × List Char) :=
  match cs with
  | 'u' :: rest => readUnicode rest
  | '\u0022' :: rest => some ('\u0022', rest)
  | '\\' :: rest => some ('\\', rest)
  | '/' :: rest => some ('/', rest)
  | 'b' :: rest => some ('\u0008', rest)
  | 'f' :: rest => some ('\u000c', rest)
  | 'n' :: rest => some ('\n', rest)
  | 'r' :: rest => some ('\r', rest)
  | 't' :: rest => some ('\t', rest)
  | _ => none

/-- The text up to the closing mark; `done` is read backwards. One step reads one character. -/
def readText (done : List Char) : (steps : Nat) → List Char → Option (String × List Char)
  | 0, _ => none
  | steps + 1, cs =>
    match cs with
    | [] => none
    | '\u0022' :: rest => some (.ofList done.reverse, rest)
    | '\\' :: rest =>
      match readEscape rest with
      | none => none
      | some (c, rest) => readText (c :: done) steps rest
    | c :: rest => if c.toNat < 0x20 then none else readText (c :: done) steps rest

def readDigits (cs : List Char) : Option (List Char × List Char) :=
  match cs.takeWhile isDigit with
  | [] => none
  | ds => some (ds, cs.dropWhile isDigit)

def readFraction (cs : List Char) : Option (Option (List Char) × List Char) :=
  match cs with
  | '.' :: rest => (readDigits rest).map fun r ↦ (some r.1, r.2)
  | _ => some (none, cs)

def readExponent (cs : List Char) : Option (Option Int × List Char) :=
  let signed (sign : Int) (cs : List Char) :=
    (readDigits cs).map fun r ↦ (some (sign * natOfDigits r.1), r.2)
  let afterMark (cs : List Char) :=
    match cs with
    | '+' :: rest => signed 1 rest
    | '-' :: rest => signed (-1) rest
    | _ => signed 1 cs
  match cs with
  | 'e' :: rest => afterMark rest
  | 'E' :: rest => afterMark rest
  | _ => some (none, cs)

def maxWholeLength : Nat := 4300

def readMagnitude (negative : Bool) (cs : List Char) : Option (Json × List Char) := do
  let (whole, rest) ← readDigits cs
  if whole.head? = some '0' && 1 < whole.length then none
  if maxWholeLength < (if negative then 1 else 0) + whole.length then none
  let (fraction, rest) ← readFraction rest
  let (exponent, rest) ← readExponent rest
  match fraction, exponent with
  | none, none =>
    let n : Int := natOfDigits whole
    return (int (if negative then -n else n), rest)
  | fraction, exponent =>
    let digits := whole ++ fraction.getD []
    let order := exponent.getD 0 - (fraction.getD []).length
    return (decimal (Decimal.toFloat negative (natOfDigits digits) order), rest)

def dropWord : (word : List Char) → List Char → Option (List Char)
  | [], cs => some cs
  | _ :: _, [] => none
  | w :: ws, c :: cs => if w = c then dropWord ws cs else none

def readAtom (cs : List Char) : Option (Json × List Char) :=
  let word (w : String) (j : Json) := (dropWord w.toList cs).map fun rest ↦ (j, rest)
  match cs with
  | 'n' :: _ => word "null" null
  | 't' :: _ => word "true" (bool true)
  | 'f' :: _ => word "false" (bool false)
  | 'N' :: _ => word "NaN" (decimal (0.0 / 0.0))
  | 'I' :: _ => word "Infinity" (decimal (1.0 / 0.0))
  | '-' :: 'I' :: _ => word "-Infinity" (decimal (-1.0 / 0.0))
  | '-' :: rest => readMagnitude true rest
  | _ => readMagnitude false cs

/-- One or more items up to `close`, with commas between them. -/
def readItems {α : Type} (item : List Char → Option (α × List Char)) (close : Char) :
    (steps : Nat) → List Char → Option (List α × List Char)
  | 0, _ => none
  | steps + 1, cs =>
    match item (skipSpace cs) with
    | none => none
    | some (a, rest) =>
      match skipSpace rest with
      | [] => none
      | c :: rest =>
        if c = close then some ([a], rest)
        else if c = ',' then (readItems item close steps rest).map fun r ↦ (a :: r.1, r.2)
        else none

def readField (value : List Char → Option (Json × List Char)) (steps : Nat) (cs : List Char) :
    Option ((String × Json) × List Char) :=
  match cs with
  | '\u0022' :: rest =>
    match readText [] steps rest with
    | none => none
    | some (key, rest) =>
      match skipSpace rest with
      | ':' :: rest => (value (skipSpace rest)).map fun r ↦ ((key, r.1), r.2)
      | _ => none
  | _ => none

/-- A value in which at most `depth` lists and objects that are not empty lie in each other. No
text, list or object of it has more than `steps` parts. -/
def readValue (steps : Nat) : (depth : Nat) → List Char → Option (Json × List Char)
  | depth, cs =>
    match cs with
    | '\u0022' :: rest => (readText [] steps rest).map fun r ↦ (text r.1, r.2)
    | '[' :: rest =>
      match skipSpace rest with
      | ']' :: rest => some (list [], rest)
      | rest =>
        match depth with
        | 0 => none
        | depth + 1 =>
          (readItems (readValue steps depth) ']' steps rest).map fun r ↦ (list r.1, r.2)
    | '\x7b' :: rest =>
      match skipSpace rest with
      | '\x7d' :: rest => some (object [], rest)
      | rest =>
        match depth with
        | 0 => none
        | depth + 1 =>
          (readItems (readField (readValue steps depth) steps) '\x7d' steps rest).map fun r ↦
            (object (r.1.foldl (fun fields f ↦ put f.1 f.2 fields) []), r.2)
    | cs => readAtom cs

def maxDepth : Nat := 200

def readWithin (depth : Nat) (cs : List Char) : Option Json :=
  match readValue cs.length depth (skipSpace cs) with
  | some (j, rest) => if (skipSpace rest).isEmpty then some j else none
  | none => none

def readChars (cs : List Char) : Option Json := readWithin maxDepth cs

end TwinDiagram.Json
