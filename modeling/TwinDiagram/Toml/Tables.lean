import TwinDiagram.Toml.Scalar

namespace TwinDiagram.Toml

/-- Changes the table a key leads to; what is missing on the way is made. A list of tables leads to
its last one, if `throughLists`. -/
def changeAt (throughLists : Bool) (change : Fields → Option Fields) :
    Key → Fields → Option Fields
  | [], t => change t
  | k :: rest, t =>
    match t.lookup k with
    | none => (changeAt throughLists change rest []).map fun u ↦ put k (table u) t
    | some (table u) => (changeAt throughLists change rest u).map fun u ↦ put k (table u) t
    | some (list items) =>
      match throughLists, items.getLast? with
      | true, some (table u) =>
        (changeAt throughLists change rest u).map fun u ↦
          put k (list (items.dropLast ++ [table u])) t
      | _, _ => none
    | some _ => none

def addField (name : String) (value : Toml) (t : Fields) : Option Fields :=
  if (t.lookup name).isSome then none else some (put name value t)

def addTable (name : String) (t : Fields) : Option Fields :=
  match t.lookup name with
  | none => some (put name (list [table []]) t)
  | some (list items) => some (put name (list (items ++ [table []])) t)
  | some _ => none

def changeLast (throughLists : Bool) (change : String → Fields → Option Fields) (k : Key)
    (t : Fields) : Option Fields :=
  match k.getLast? with
  | none => none
  | some name => changeAt throughLists (change name) k.dropLast t

def isFrozen (frozen : List Key) (k : Key) : Bool := frozen.any (·.isPrefixOf k)

def isClosed : Toml → Bool
  | list _ => true
  | table _ => true
  | _ => false

structure Draft where
  fields : Fields
  /-- The table that plain lines add to. -/
  header : Key
  frozen : List Key
  /-- Tables that must not be headed again. -/
  opened : List Key
  /-- Tables that the lines since the last header lead through; they count as opened behind the
  next header. -/
  passed : List Key

namespace Draft

def empty : Draft := ⟨[], [], [], [], []⟩

/-- The keys on the way to `k` below `header`, without the full one. -/
def between (header k : Key) : List Key :=
  (List.range (k.length - 1)).map fun n ↦ header ++ k.take (n + 1)

def assign (d : Draft) (k : Key) (value : Toml) : Option Draft :=
  let full := d.header ++ k
  let way := between d.header k
  if way.any d.opened.contains || isFrozen d.frozen full.dropLast then none
  else (changeLast true (fun name ↦ addField name value) full d.fields).map fun fields ↦
    { d with
      fields
      frozen := if isClosed value then full :: d.frozen else d.frozen
      passed := way ++ d.passed }

def settle (d : Draft) : Draft := { d with opened := d.passed ++ d.opened, passed := [] }

def openTable (d : Draft) (k : Key) : Option Draft :=
  if d.opened.contains k || isFrozen d.frozen k then none
  else (changeAt true some k d.fields).map fun fields ↦
    { d with fields, header := k, opened := k :: d.opened }

def openItem (d : Draft) (k : Key) : Option Draft :=
  if isFrozen d.frozen k then none
  else (changeLast true addTable k d.fields).map fun fields ↦
    { d with
      fields
      header := k
      frozen := d.frozen.filter (! k.isPrefixOf ·)
      opened := k :: d.opened.filter (! k.isPrefixOf ·) }

end Draft

end TwinDiagram.Toml
