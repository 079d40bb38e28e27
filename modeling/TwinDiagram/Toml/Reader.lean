import TwinDiagram.Toml.Tables

namespace TwinDiagram.Toml

def skipLines : (steps : Nat) → List Char → Except Fault (List Char)
  | 0, cs => .ok cs
  | steps + 1, cs =>
    match cs.dropWhile isGapOrNewline with
    | '#' :: rest => do skipLines steps (← skipComment ('#' :: rest))
    | rest => .ok rest

def readItems (value : List Char → Reading (Toml × List Char)) :
    (steps : Nat) → List Char → Reading (List Toml × List Char)
  | 0, _ => .error .malformed
  | steps + 1, cs => do
    let (v, rest) ← value cs
    match ← skipLines rest.length rest with
    | ']' :: rest => return ([v], rest)
    | ',' :: rest =>
      match ← skipLines rest.length rest with
      | ']' :: rest => return ([v], rest)
      | rest =>
        let (vs, rest) ← readItems value steps rest
        return (v :: vs, rest)
    | _ => .error .malformed

def readField (value : List Char → Reading (Toml × List Char)) (cs : List Char) :
    Reading ((Key × Toml) × List Char) := do
  let (k, rest) ← key (cs.length + 1) cs
  match rest with
  | '=' :: rest =>
    let (v, rest) ← value (skipGaps rest)
    return ((k, v), rest)
  | _ => .error .malformed

def orFault {α : Type} (x : Option α) : Except Fault α :=
  match x with
  | some a => .ok a
  | none => .error .malformed

def readFields (value : List Char → Reading (Toml × List Char)) :
    (steps : Nat) → Fields → List Key → List Char → Reading (Fields × List Char)
  | 0, _, _, _ => .error .malformed
  | steps + 1, t, frozen, cs => do
    let ((k, v), rest) ← readField value cs
    if isFrozen frozen k then .error .malformed
    let t ← orFault (changeLast false (fun name ↦ addField name v) k t)
    match skipGaps rest with
    | '\x7d' :: rest => return (t, rest)
    | ',' :: rest =>
      readFields value steps t (if isClosed v then k :: frozen else frozen) (skipGaps rest)
    | _ => .error .malformed

/-- A value; lists and tables in each other need at most `depth`. A list needs two and a table
within a line three. -/
def readValue : (depth : Nat) → List Char → Reading (Toml × List Char)
  | depth, cs =>
    match depth, cs with
    | depth + 2, '[' :: rest => do
      match ← skipLines rest.length rest with
      | ']' :: rest => return (list [], rest)
      | rest =>
        let (vs, rest) ← readItems (readValue depth) (rest.length + 1) rest
        return (list vs, rest)
    | depth + 3, '\x7b' :: rest =>
      match skipGaps rest with
      | '\x7d' :: rest => return (table [], rest)
      | rest => do
        let (t, rest) ← readFields (readValue depth) (rest.length + 1) [] [] rest
        return (table t, rest)
    | _, '[' :: _ => .error .tooDeep
    | _, '\x7b' :: _ => .error .tooDeep
    | _, cs => readScalar cs

def maxDepth : Nat := 983

def readStatement (d : Draft) (cs : List Char) : Reading (Draft × List Char) :=
  match cs with
  | '[' :: '[' :: rest => do
    let (k, rest) ← key (rest.length + 1) (skipGaps rest)
    let d ← orFault (d.settle.openItem k)
    match rest with
    | ']' :: ']' :: rest => return (d, rest)
    | _ => .error .malformed
  | '[' :: rest => do
    let (k, rest) ← key (rest.length + 1) (skipGaps rest)
    let d ← orFault (d.settle.openTable k)
    match rest with
    | ']' :: rest => return (d, rest)
    | _ => .error .malformed
  | '#' :: _ => .ok (d, cs)
  | _ => do
    let ((k, v), rest) ← readField (readValue maxDepth) cs
    return (← orFault (d.assign k v), rest)

def readLines : (steps : Nat) → Draft → List Char → Except Fault Fields
  | 0, _, _ => .error .malformed
  | steps + 1, d, cs =>
    match skipGaps cs with
    | [] => .ok d.fields
    | '\n' :: rest => readLines steps d rest
    | cs => do
      let (d, rest) ← readStatement d cs
      match ← skipComment (skipGaps rest) with
      | [] => .ok d.fields
      | '\n' :: rest => readLines steps d rest
      | _ => .error .malformed

def read (s : String) : Except Fault Fields :=
  let cs := s.toList
  readLines (cs.length + 1) .empty cs

end TwinDiagram.Toml
