import TwinDiagram.Port.Role

namespace TwinDiagram.Port

/-- The last place of a key in the order; behind the number of its keys if it has none. -/
def rank (order : List String) (key : String) : Nat :=
  match order.reverse.idxOf? key with
  | some i => order.length - 1 - i
  | none => order.eraseDups.length

def precedes (order : List String) (a b : String) : Bool :=
  let i := rank order (PortRole.key a)
  let j := rank order (PortRole.key b)
  i < j || (i == j && decide (a ≤ b))

def sortBy {α : Type} (order : List String) (name : α → String) (xs : List α) : List α :=
  xs.mergeSort fun a b ↦ precedes order (name a) (name b)

/-- The indexes of `names` in drawing order. -/
def order (names : List String) (canonical : List String) : List Nat :=
  (sortBy canonical Prod.fst names.zipIdx).map Prod.snd

end TwinDiagram.Port
