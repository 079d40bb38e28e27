namespace TwinDiagram

structure Table (β : Type) where
  entries : List (String × β)

namespace Table

variable {β : Type}

def empty : Table β := ⟨[]⟩

def get? (t : Table β) (key : String) : Option β := t.entries.lookup key

def contains (t : Table β) (key : String) : Bool := (t.get? key).isSome

def size (t : Table β) : Nat := t.entries.length

def values (t : Table β) : List β := t.entries.map Prod.snd

def insertNew (t : Table β) (key : String) (value : β) : Table β :=
  if t.contains key then t else ⟨t.entries ++ [(key, value)]⟩

/-- A key that has a value gets the new one in its old place. -/
def insert (t : Table β) (key : String) (value : β) : Table β :=
  if t.contains key then
    ⟨t.entries.map fun e ↦ if e.1 == key then (key, value) else e⟩
  else ⟨t.entries ++ [(key, value)]⟩

def erase (t : Table β) (key : String) : Table β := ⟨t.entries.filter (·.1 != key)⟩

end Table

end TwinDiagram
