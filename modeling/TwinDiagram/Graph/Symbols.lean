import TwinDiagram.Graph.Identifier
import TwinDiagram.Table

namespace TwinDiagram.Graph

/-- An unqualified name that another entity already has as its qualified one. -/
structure AliasClash where
  name : String
deriving DecidableEq, Repr

/-- The names of ports, or those of twins. An unqualified name counts while a single system
declares it; after that it is ambiguous. -/
structure Aliases where
  ids : Table String
  /-- The system that declared an unqualified name. -/
  systems : Table String
  ambiguous : List String

namespace Aliases

def empty : Aliases := ⟨.empty, .empty, []⟩

def addQualified (a : Aliases) (name id : String) : Aliases :=
  { a with ids := a.ids.insertNew name id }

def addUnqualified (a : Aliases) (name system id : String) : Except AliasClash Aliases :=
  if a.ambiguous.contains name then .ok a
  else if !a.ids.contains name then
    .ok { a with ids := a.ids.insert name id, systems := a.systems.insert name system }
  else match a.systems.get? name with
    | none => .error ⟨name⟩
    | some s =>
      if s = system then .ok a
      else .ok { a with ids := a.ids.erase name, ambiguous := name :: a.ambiguous }

end Aliases

/-- In `paths` is the dotted path of every port and twin. -/
structure Symbols where
  ports : Aliases
  twins : Aliases
  goals : Table String
  paths : Table String

namespace Symbols

def empty : Symbols := ⟨.empty, .empty, .empty, .empty⟩

abbrev Adding := ExceptT AliasClash (StateM Symbols)

def addPort (system owner port id : String) : Adding Unit := do
  modify fun s ↦ { s with ports := s.ports.addQualified s!"{system}.{owner}.{port}" id }
  let ports ← liftExcept ((← get).ports.addUnqualified s!"{owner}.{port}" system id)
  modify fun s ↦
    { s with ports, paths := s.paths.insertNew id (path [system, owner, port]) }
where
  liftExcept {α : Type} (x : Except AliasClash α) : Adding α := ExceptT.mk (pure x)

def addTwin (system twin id : String) : Adding Unit := do
  modify fun s ↦ { s with twins := s.twins.addQualified s!"{system}.{twin}" id }
  let twins ← liftExcept ((← get).twins.addUnqualified twin system id)
  modify fun s ↦ { s with twins, paths := s.paths.insertNew id (path [system, twin]) }
where
  liftExcept {α : Type} (x : Except AliasClash α) : Adding α := ExceptT.mk (pure x)

def addGoal (s : Symbols) (goal id : String) : Symbols :=
  { s with goals := s.goals.insertNew goal id }

def trim (reference : String) : String := .ofList (Text.trim reference.toList)

def withoutSystem? (system reference : String) : Option String :=
  ((system.toList ++ ['.']).isPrefixOf? reference.toList).map .ofList

/-- A reference inside a system is looked up as written, then behind the name of the system, then
without a leading name of the system. -/
def port? (s : Symbols) (system reference : String) : Option String :=
  let reference := trim reference
  match s.ports.ids.get? reference with
  | some id => some id
  | none =>
    match s.ports.ids.get? s!"{system}.{reference}" with
    | some id => some id
    | none => (withoutSystem? system reference).bind s.ports.ids.get?

/-- The first name of a reference is taken for a system if it is unknown as written. -/
def twin? (s : Symbols) (reference : String) : Option String :=
  let reference := trim reference
  match s.twins.ids.get? reference with
  | some id => some id
  | none =>
    let system := String.ofList (reference.toList.takeWhile (· != '.'))
    (withoutSystem? system reference).bind s.twins.ids.get?

def isAmbiguousPort (s : Symbols) (system reference : String) : Bool :=
  let reference := trim reference
  s.ports.ambiguous.contains ((withoutSystem? system reference).getD reference)

def isAmbiguousTwin (s : Symbols) (reference : String) : Bool :=
  s.twins.ambiguous.contains (trim reference)

end Symbols

end TwinDiagram.Graph
