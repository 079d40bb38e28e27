import TwinDiagram.Diagnostic.Basic
import TwinDiagram.Graph.Basic
import TwinDiagram.Graph.Symbols
import TwinDiagram.Model.Basic

namespace TwinDiagram.Graph

inductive Finding where
  | duplicateNode (kind : NodeKind) (label : String)
  | duplicateEdge (kind : EdgeKind) (id : String)
  | lostConnection (connection : Connection) (reference : String) (ambiguous : Bool)
  | lostAllocation (allocation : Allocation) (reference : String) (ambiguous : Bool)
deriving DecidableEq, Repr

namespace Finding

def message : Finding → String
  | duplicateNode kind label => s!"Duplicate {kind.tag} '{label}' ignored"
  | duplicateEdge kind id => s!"Duplicate {kind.tag} '{id}' ignored"
  | lostConnection c reference ambiguous =>
    let reason := if ambiguous then "ambiguous" else "unknown"
    s!"Connection '{c.source} -> {c.target}' dropped: {reason} port '{reference}'"
  | lostAllocation a reference ambiguous =>
    let reason := if ambiguous then "ambiguous" else "unknown"
    s!"Allocation of '{a.goal}' to '{a.target}' dropped: {reason} reference '{reference}'"

def code : Finding → DiagnosticCode
  | duplicateNode _ _ => .duplicateNode
  | duplicateEdge _ _ => .duplicateEdge
  | lostConnection _ _ ambiguous =>
    if ambiguous then .ambiguousReference else .unresolvedConnection
  | lostAllocation _ _ ambiguous =>
    if ambiguous then .ambiguousReference else .unresolvedAllocation

def reference : Finding → String
  | duplicateNode _ label => label
  | duplicateEdge _ id => id
  | lostConnection _ reference _ => reference
  | lostAllocation _ reference _ => reference

def diagnostic (f : Finding) : Diagnostic :=
  ⟨.warning, f.code, f.message, some f.reference, none, none⟩

end Finding

/-- Why a model has no graph. -/
inductive BuildFault where
  | clash (c : AliasClash)
  | pathless (id : String)
  | malformed (f : Fault)
deriving DecidableEq, Repr

/-- The graph under way. -/
structure Draft where
  nodes : List Node
  edges : List Edge
  symbols : Symbols
  findings : List Finding

def Draft.empty : Draft := ⟨[], [], .empty, []⟩

abbrev Build := ExceptT BuildFault (StateM Draft)

namespace Build

def report (f : Finding) : Build Unit := modify fun d ↦ { d with findings := d.findings ++ [f] }

def addNode (n : Node) : Build Bool := do
  if (← get).nodes.any (·.id == n.id) then
    report (.duplicateNode n.kind n.label)
    return false
  modify fun d ↦ { d with nodes := d.nodes ++ [n] }
  return true

def addEdge (e : Edge) : Build Unit := do
  if (← get).edges.any (·.id == e.id) then report (.duplicateEdge e.kind e.id)
  else modify fun d ↦ { d with edges := d.edges ++ [e] }

def addSymbol (add : Symbols.Adding Unit) : Build Unit := do
  let (result, symbols) := add.run.run (← get).symbols
  modify fun d ↦ { d with symbols }
  match result with
  | .ok _ => return
  | .error c => throw (.clash c)

def pathOf (id : String) : Build String := do
  match (← get).symbols.paths.get? id with
  | some p => return p
  | none => throw (.pathless id)

def addPorts (root system : String) (kind : NodeKind) (owner ownerId : String) :
    List String → Build Unit
  | [] => return
  | port :: rest => do
    let id := identifier "port" [root, system, kind.tag, owner, port]
    if ← addNode ⟨id, port, .port ownerId⟩ then addSymbol (Symbols.addPort system owner port id)
    addPorts root system kind owner ownerId rest

def addDigitalTwins (root system systemId : String) : List Twin → Build Unit
  | [] => return
  | t :: rest => do
    let id := identifier "dt" [root, system, t.name]
    if ← addNode ⟨id, t.name, .digitalTwin systemId⟩ then
      addSymbol (Symbols.addTwin system t.name id)
      addPorts root system .digitalTwin t.name id t.ports
    addDigitalTwins root system systemId rest

def addParts (root system systemId : String) : List Twin → Build Unit
  | [] => return
  | t :: rest => do
    let id := identifier "at" [root, system, t.name]
    if ← addNode ⟨id, t.name, .part systemId⟩ then
      addPorts root system .part t.name id t.ports
    addParts root system systemId rest

def addSystems (root rootId : String) : List System → Build (List System)
  | [] => return []
  | s :: rest => do
    let id := identifier "ts" [root, s.name]
    if ← addNode ⟨id, s.name, .system rootId⟩ then
      addDigitalTwins root s.name id s.digitalTwins
      addParts root s.name id s.parts
      return s :: (← addSystems root rootId rest)
    else addSystems root rootId rest

def addGoals (root rootId : String) : List Goal → Build Unit
  | [] => return
  | g :: rest => do
    let id := identifier "goal" [root, g.name]
    if ← addNode ⟨id, g.name, .goal rootId g.doc⟩ then
      modify fun d ↦ { d with symbols := d.symbols.addGoal g.name id }
    addGoals root rootId rest

def addConnection (root system : String) (c : Connection) : Build Unit := do
  let symbols := (← get).symbols
  let lost (reference : String) : Build Unit :=
    report (.lostConnection c reference (symbols.isAmbiguousPort system reference))
  match symbols.port? system c.source, symbols.port? system c.target with
  | none, _ => lost c.source
  | some _, none => lost c.target
  | some source, some target =>
    let ends := s!"{← pathOf source}->{← pathOf target}"
    let name := match c.name with
      | none => []
      | some n => if n.isEmpty then [] else [segment n]
    let id := separator.intercalate ([identifier "connect" [root, system], ends] ++ name)
    addEdge ⟨id, .connection, source, target, c.name⟩

def allocationLabel : String := "allocate"

def addAllocation (root : String) (a : Allocation) : Build Unit := do
  let symbols := (← get).symbols
  match symbols.goals.get? a.goal, symbols.twin? a.target with
  | none, _ => report (.lostAllocation a a.goal false)
  | some _, none => report (.lostAllocation a a.target (symbols.isAmbiguousTwin a.target))
  | some goal, some twin =>
    let id := separator.intercalate
      [allocationLabel, segment root, ← pathOf twin, segment a.goal]
    addEdge ⟨id, .allocation, twin, goal, some allocationLabel⟩

/-- The name that stands for the root in identifiers. -/
def rootName (m : Model) : String := if m.name.isEmpty then "dartwin" else m.name

def graph (m : Model) : Build Graph := do
  let root := rootName m
  let rootId := identifier "dw" [root]
  let _ ← addNode ⟨rootId, m.name, .root⟩
  let systems ← addSystems root rootId m.systems
  addGoals root rootId m.goals
  systems.forM fun s ↦ s.connections.forM (addConnection root s.name)
  m.allocations.forM (addAllocation root)
  let d ← get
  match Graph.ofParts d.nodes d.edges with
  | .ok g => return g
  | .error f => throw (.malformed f)

end Build

/-- The graph of a model, and all that was gathered on the way. -/
def ofModel (m : Model) : Except BuildFault Graph × Draft := (Build.graph m).run.run .empty

end TwinDiagram.Graph
