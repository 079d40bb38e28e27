import TwinDiagram.Graph.Basic
import TwinDiagram.Json.Basic

namespace TwinDiagram

open Json (ofFields ofText?)

def Node.toJson (n : Node) : Json :=
  ofFields [("id", some (.text n.id)), ("label", some (.text n.label)),
    ("parentId", ofText? n.parent?), ("type", some (.text n.kind.tag)), ("doc", ofText? n.doc?)]

def Place.ofJson (j : Json) : Place :=
  let parent := j.textAt "parentId"
  match NodeKind.all.find? (·.tag == j.textAt "type") with
  | some .system => .system parent
  | some .digitalTwin => .digitalTwin parent
  | some .part => .part parent
  | some .port => .port parent
  | some .goal => .goal parent (j.textAt? "doc")
  | _ => .root

def Node.ofJson (j : Json) : Node := ⟨j.textAt "id", j.textAt "label", Place.ofJson j⟩

def Edge.toJson (e : Edge) : Json :=
  ofFields [("id", some (.text e.id)), ("kind", some (.text e.kind.tag)),
    ("source", some (.text e.source)), ("target", some (.text e.target)),
    ("label", ofText? e.label)]

def EdgeKind.ofJson (j : Json) : EdgeKind :=
  if j.textAt "kind" == EdgeKind.allocation.tag then .allocation else .connection

def Edge.ofJson (j : Json) : Edge :=
  ⟨j.textAt "id", EdgeKind.ofJson j, j.textAt "source", j.textAt "target", j.textAt? "label"⟩

def Graph.toJson (g : Graph) : Json :=
  .object [("nodes", .list (g.nodes.map Node.toJson)), ("edges", .list (g.edges.map Edge.toJson))]

def Graph.ofJson (j : Json) : Graph :=
  ⟨(j.itemsAt "nodes").map Node.ofJson, (j.itemsAt "edges").map Edge.ofJson⟩

end TwinDiagram
