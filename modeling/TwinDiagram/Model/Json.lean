import TwinDiagram.Json.Basic
import TwinDiagram.Model.Basic

namespace TwinDiagram

open Json (ofFields ofText?)

def Twin.toJson (t : Twin) : Json :=
  .object [("name", .text t.name), ("ports", .list (t.ports.map .text))]

def Twin.ofJson (j : Json) : Twin := ⟨j.textAt "name", (j.itemsAt "ports").filterMap Json.text?⟩

def Connection.toJson (c : Connection) : Json :=
  ofFields [("from", some (.text c.source)), ("to", some (.text c.target)),
    ("name", ofText? c.name)]

def Connection.ofJson (j : Json) : Connection := ⟨j.textAt "from", j.textAt "to", j.textAt? "name"⟩

def Goal.toJson (g : Goal) : Json :=
  ofFields [("name", some (.text g.name)), ("doc", ofText? g.doc)]

def Goal.ofJson (j : Json) : Goal := ⟨j.textAt "name", j.textAt? "doc"⟩

def Allocation.toJson (a : Allocation) : Json :=
  .object [("goal", .text a.goal), ("target", .text a.target)]

def Allocation.ofJson (j : Json) : Allocation := ⟨j.textAt "goal", j.textAt "target"⟩

def System.toJson (s : System) : Json :=
  .object [("name", .text s.name), ("digital_twins", .list (s.digitalTwins.map Twin.toJson)),
    ("original_twins", .list (s.parts.map Twin.toJson)),
    ("connections", .list (s.connections.map Connection.toJson))]

def System.ofJson (j : Json) : System :=
  ⟨j.textAt "name", (j.itemsAt "digital_twins").map Twin.ofJson,
    (j.itemsAt "original_twins").map Twin.ofJson, (j.itemsAt "connections").map Connection.ofJson⟩

def Slice.toJson (s : Slice) : Json :=
  ofFields [("systems", s.systems.map fun xs ↦ .list (xs.map System.toJson)),
    ("goals", s.goals.map fun xs ↦ .list (xs.map Goal.toJson)),
    ("allocations", s.allocations.map fun xs ↦ .list (xs.map Allocation.toJson))]

def Slice.ofJson (j : Json) : Slice :=
  ⟨(j.field? "systems").map (·.items.map System.ofJson),
    (j.field? "goals").map (·.items.map Goal.ofJson),
    (j.field? "allocations").map (·.items.map Allocation.ofJson)⟩

def Transform.toJson (t : Transform) : Json :=
  ofFields [("before", t.before.map Slice.toJson), ("core", t.core.map Slice.toJson),
    ("after", t.after.map Slice.toJson)]

def Transform.ofJson (j : Json) : Transform :=
  ⟨(j.field? "before").map Slice.ofJson, (j.field? "core").map Slice.ofJson,
    (j.field? "after").map Slice.ofJson⟩

namespace Model

def typeTag : String := "DarTwin"

def toJson (m : Model) : Json :=
  ofFields [("type", some (.text typeTag)), ("name", some (.text m.name)),
    ("systems", some (.list (m.systems.map System.toJson))),
    ("goals", some (.list (m.goals.map Goal.toJson))),
    ("allocations", some (.list (m.allocations.map Allocation.toJson))),
    ("dartrans", m.transform.map Transform.toJson)]

def ofJson (j : Json) : Model :=
  ⟨j.textAt "name", (j.itemsAt "systems").map System.ofJson, (j.itemsAt "goals").map Goal.ofJson,
    (j.itemsAt "allocations").map Allocation.ofJson,
    (j.field? "dartrans").map Transform.ofJson⟩

end Model

end TwinDiagram
