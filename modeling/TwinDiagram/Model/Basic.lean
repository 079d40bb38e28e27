namespace TwinDiagram

structure Twin where
  name : String
  ports : List String
deriving DecidableEq, Repr

/-- Both ends are dotted references as written. -/
structure Connection where
  source : String
  target : String
  name : Option String
deriving DecidableEq, Repr

structure Goal where
  name : String
  doc : Option String
deriving DecidableEq, Repr

structure Allocation where
  goal : String
  target : String
deriving DecidableEq, Repr

structure System where
  name : String
  digitalTwins : List Twin
  parts : List Twin
  connections : List Connection
deriving DecidableEq, Repr

structure Slice where
  systems : Option (List System)
  goals : Option (List Goal)
  allocations : Option (List Allocation)
deriving DecidableEq, Repr

/-- The architecture before and after a change, and what both share. -/
structure Transform where
  before : Option Slice
  core : Option Slice
  after : Option Slice
deriving DecidableEq, Repr

/-- The name is empty when the document has no root. -/
structure Model where
  name : String
  systems : List System
  goals : List Goal
  allocations : List Allocation
  transform : Option Transform
deriving DecidableEq, Repr

namespace Transform

def empty : Transform := ⟨none, none, none⟩

def slices (t : Transform) : List (String × Slice) :=
  [("before", t.before), ("core", t.core), ("after", t.after)].filterMap fun s ↦
    s.2.map (s.1, ·)

end Transform

namespace Model

def empty : Model := ⟨"", [], [], [], none⟩

def isEmpty (m : Model) : Bool :=
  m.systems.isEmpty && m.goals.isEmpty && m.allocations.isEmpty && m.transform.isNone

def system? (m : Model) (name : String) : Option System := m.systems.find? (·.name == name)

def goal? (m : Model) (name : String) : Option Goal := m.goals.find? (·.name == name)

end Model

end TwinDiagram
