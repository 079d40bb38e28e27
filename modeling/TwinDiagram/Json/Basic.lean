namespace TwinDiagram

inductive Json where
  | null
  | bool (b : Bool)
  | int (n : Int)
  | decimal (x : Float)
  | text (s : String)
  | list (items : List Json)
  | object (fields : List (String × Json))
deriving Inhabited

namespace Json

def field? (j : Json) (key : String) : Option Json :=
  match j with
  | object fields => fields.lookup key
  | _ => none

def text? : Json → Option String
  | text s => some s
  | _ => none

def items : Json → List Json
  | list js => js
  | _ => []

def integer? : Json → Option Int
  | int n => some n
  | _ => none

def decimal? : Json → Option Float
  | decimal x => some x
  | _ => none

def textAt? (j : Json) (key : String) : Option String := (j.field? key).bind text?

def textAt (j : Json) (key : String) : String := (j.textAt? key).getD ""

def itemsAt (j : Json) (key : String) : List Json := ((j.field? key).map items).getD []

def isNull : Json → Bool
  | null => true
  | _ => false

/-- Sets a field: in its old place if the key is there, else at the end. -/
def put (key : String) (value : Json) : List (String × Json) → List (String × Json)
  | [] => [(key, value)]
  | (k, v) :: rest => if k = key then (key, value) :: rest else (k, v) :: put key value rest

def ofFields (fields : List (String × Option Json)) : Json :=
  object (fields.filterMap fun f ↦ f.2.map (f.1, ·))

def ofText? (s : Option String) : Option Json := s.map text

mutual

/-- Fields in the order of their keys, at every depth. -/
def sortKeys : Json → Json
  | list items => list (sortItems items)
  | object fields => object ((sortFields fields).mergeSort fun a b ↦ decide (a.1 ≤ b.1))
  | j => j

def sortItems : List Json → List Json
  | [] => []
  | j :: rest => sortKeys j :: sortItems rest

def sortFields : List (String × Json) → List (String × Json)
  | [] => []
  | (k, j) :: rest => (k, sortKeys j) :: sortFields rest

end

end Json

end TwinDiagram
