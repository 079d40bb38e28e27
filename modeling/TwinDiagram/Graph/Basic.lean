import TwinDiagram.Text.Template

namespace TwinDiagram

inductive NodeKind where
  | root
  | system
  | digitalTwin
  | part
  | port
  | goal
deriving DecidableEq, Repr

namespace NodeKind

def tag : NodeKind → String
  | root => "dartwin"
  | system => "twinsystem"
  | digitalTwin => "dt"
  | part => "at"
  | port => "port"
  | goal => "goal"

def all : List NodeKind := [root, system, digitalTwin, part, port, goal]

end NodeKind

/-- Where a node belongs. All but the root have a parent; a goal may be documented. -/
inductive Place where
  | root
  | system (parent : String)
  | digitalTwin (parent : String)
  | part (parent : String)
  | port (parent : String)
  | goal (parent : String) (doc : Option String)
deriving DecidableEq, Repr

namespace Place

def kind : Place → NodeKind
  | root => .root
  | system _ => .system
  | digitalTwin _ => .digitalTwin
  | part _ => .part
  | port _ => .port
  | goal _ _ => .goal

def parent? : Place → Option String
  | root => none
  | system p => some p
  | digitalTwin p => some p
  | part p => some p
  | port p => some p
  | goal p _ => some p

def doc? : Place → Option String
  | goal _ doc => doc
  | _ => none

end Place

structure Node where
  id : String
  label : String
  place : Place
deriving DecidableEq, Repr

namespace Node

def kind (n : Node) : NodeKind := n.place.kind

def parent? (n : Node) : Option String := n.place.parent?

def doc? (n : Node) : Option String := n.place.doc?

end Node

inductive EdgeKind where
  | connection
  | allocation
deriving DecidableEq, Repr

def EdgeKind.tag : EdgeKind → String
  | .connection => "connection"
  | .allocation => "allocation"

structure Edge where
  id : String
  kind : EdgeKind
  source : String
  target : String
  label : Option String
deriving DecidableEq, Repr

structure Graph where
  nodes : List Node
  edges : List Edge
deriving DecidableEq, Repr

inductive EdgeEnd where
  | source
  | target
deriving DecidableEq, Repr

def EdgeEnd.label : EdgeEnd → String
  | .source => "source"
  | .target => "target"

namespace Graph

def node? (g : Graph) (id : String) : Option Node := g.nodes.find? (·.id == id)

def nodesOfKind (g : Graph) (k : NodeKind) : List Node := g.nodes.filter (·.kind == k)

def edgesOfKind (g : Graph) (k : EdgeKind) : List Edge := g.edges.filter (·.kind == k)

def children (g : Graph) (parent : String) : List Node :=
  g.nodes.filter (·.parent? == some parent)

def childrenOfKind (g : Graph) (parent : String) (k : NodeKind) : List Node :=
  (g.children parent).filter (·.kind == k)

/-- What keeps nodes and edges from being a graph; indexes count from zero. -/
inductive Fault where
  | duplicateNode (index : Nat) (id : String)
  | unknownNode (index : Nat) (edgeEnd : EdgeEnd) (id : String)
deriving DecidableEq, Repr

namespace Fault

def path : Fault → List String
  | duplicateNode i _ => ["nodes", toString i, "id"]
  | unknownNode i e _ => ["edges", toString i, e.label]

/-- In an identifier the placeholder `field` stands for the path. -/
def message (f : Fault) : String :=
  let shown (id : String) := Text.substitute "field" (".".intercalate f.path) id
  match f with
  | duplicateNode _ id => s!"Duplicate node id '{shown id}'"
  | unknownNode _ e id => s!"Edge {e.label} references unknown node '{shown id}'"

end Fault

def findDuplicate (seen : List String) (index : Nat) : List Node → Option Fault
  | [] => none
  | n :: rest =>
    if seen.contains n.id then some (.duplicateNode index n.id)
    else findDuplicate (n.id :: seen) (index + 1) rest

def findUnknown (ids : List String) (index : Nat) : List Edge → Option Fault
  | [] => none
  | e :: rest =>
    if !ids.contains e.source then some (.unknownNode index .source e.source)
    else if !ids.contains e.target then some (.unknownNode index .target e.target)
    else findUnknown ids (index + 1) rest

def fault? (nodes : List Node) (edges : List Edge) : Option Fault :=
  findDuplicate [] 0 nodes <|> findUnknown (nodes.map (·.id)) 0 edges

def ofParts (nodes : List Node) (edges : List Edge) : Except Fault Graph :=
  match fault? nodes edges with
  | some f => .error f
  | none => .ok ⟨nodes, edges⟩

end Graph

end TwinDiagram
