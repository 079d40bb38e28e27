namespace TwinDiagram.Block

variable {α : Type} (isOpen isClose : α → Bool)

/-- The number of items before the one that brings the depth back to zero. -/
def closing? (depth : Int) : List α → Option Nat
  | [] => none
  | x :: rest =>
    if isOpen x then (closing? (depth + 1) rest).map (· + 1)
    else if isClose x then
      if depth - 1 = 0 then some 0 else (closing? (depth - 1) rest).map (· + 1)
    else (closing? depth rest).map (· + 1)

def clamp (length : Nat) (index : Int) : Nat :=
  if index < 0 then (length + index).toNat else min index.toNat length

def slice (first last : Int) (xs : List α) : List α :=
  let first := clamp xs.length first
  (xs.drop first).take (clamp xs.length last - first)

/-- A block: its items, the index of its closing item, and whether there is one. -/
structure Extracted (α : Type) where
  body : List α
  stop : Int
  closed : Bool

/-- The block opened at `index`. Scanning from a negative index starts that far from the end and
goes on with the whole list. -/
def extract (xs : List α) (index : Int) : Extracted α :=
  let scanned := if index < 0 then xs.drop (clamp xs.length index) ++ xs else xs.drop index.toNat
  match closing? isOpen isClose 0 scanned with
  | some n => ⟨slice (index + 1) (index + n) xs, index + n, true⟩
  | none => ⟨[], xs.length, false⟩

/-- There is no block at an index in front of the first item. -/
def extract? (xs : List α) (index : Int) : Option (Extracted α) :=
  if xs.length + index < 0 then none else some (extract isOpen isClose xs index)

end TwinDiagram.Block
