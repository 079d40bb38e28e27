import TwinDiagram.Diagnostic.Basic
import TwinDiagram.Graph.Basic
import TwinDiagram.Interchange.Shape
import TwinDiagram.Model.Json
import TwinDiagram.Port.Role

namespace TwinDiagram.Interchange

namespace Shape

def required (key : String) (s : Shape) : Field × Shape := (⟨key, none, none⟩, s)

def default (key : String) (value : Json) (s : Shape) : Field × Shape :=
  (⟨key, none, some value⟩, s)

/-- May be null or left out. -/
def absent (key : String) (s : Shape) : Field × Shape := default key .null (.optional s)

def items (key : String) (s : Shape) : Field × Shape := default key (.list []) (.list s)

def twin (name : String) : Shape :=
  .record ⟨name, ["name", "ports"]⟩ [required "name" .text, items "ports" .text]

def digitalTwin : Shape := twin "DigitalTwin"

def part : Shape := twin "OriginalTwin"

def connection : Shape :=
  .record ⟨"Connection", ["from", "to"]⟩
    [(⟨"from", some "from_", none⟩, .text), required "to" .text, absent "name" .text]

def goal : Shape :=
  .record ⟨"Goal", ["name"]⟩ [required "name" .text, absent "doc" .text]

def allocation : Shape :=
  .record ⟨"Allocation", ["goal", "target"]⟩ [required "goal" .text, required "target" .text]

def system : Shape :=
  .record ⟨"TwinSystem", ["name", "digital_twins", "original_twins", "connections"]⟩
    [required "name" .text, items "digital_twins" digitalTwin,
      items "original_twins" part, items "connections" connection]

def slice : Shape :=
  .record ⟨"DarTwinSlice", []⟩
    [absent "systems" (.list system), absent "goals" (.list goal),
      absent "allocations" (.list allocation)]

def transform : Shape :=
  .record ⟨"DarTrans", []⟩ [absent "before" slice, absent "core" slice, absent "after" slice]

def model : Shape :=
  .record ⟨"DarTwinModel", ["type", "name", "systems", "goals", "allocations"]⟩
    [default "type" (.text Model.typeTag) (.constant Model.typeTag),
      default "name" (.text "") .text,
      items "systems" system, items "goals" goal, items "allocations" allocation,
      absent "dartrans" transform]

def tag (k : NodeKind) : Field × Shape := default "type" (.text k.tag) (.constant k.tag)

def rootNode : Shape :=
  .record ⟨"RootNode", ["id", "type", "label"]⟩
    [required "id" .text, required "label" .text, tag .root]

def childNode (name : String) (k : NodeKind) (more : List (Field × Shape)) : Shape :=
  .record ⟨name, ["id", "type", "label", "parentId"]⟩
    ([required "id" .text, required "label" .text,
      (⟨"parentId", some "parent_id", none⟩, .text), tag k] ++ more)

def nodeOfKind : NodeKind → Shape
  | .root => rootNode
  | .system => childNode "SystemNode" .system []
  | .digitalTwin => childNode "DigitalTwinNode" .digitalTwin []
  | .part => childNode "OriginalTwinNode" .part []
  | .port => childNode "PortNode" .port []
  | .goal => childNode "GoalNode" .goal [absent "doc" .text]

def node : Shape := .tagged (NodeKind.all.map fun k ↦ (k.tag, nodeOfKind k))

def edge : Shape :=
  .record ⟨"Edge", ["id", "source", "target"]⟩
    [required "id" .text,
      default "kind" (.text EdgeKind.connection.tag)
        (.choice [EdgeKind.connection.tag, EdgeKind.allocation.tag]),
      required "source" .text, required "target" .text, absent "label" .text]

def graph : Shape :=
  .record ⟨"Graph", ["nodes", "edges"]⟩ [items "nodes" node, items "edges" edge]

def diagnostic : Shape :=
  .record ⟨"Diagnostic", []⟩
    [required "severity" (.choice [Severity.info.label, Severity.warning.label]),
      required "code" (.choice (DiagnosticCode.all.map (·.label))), required "message" .text,
      absent "reference" .text, absent "line" .integer, absent "column" .integer]

def position : Shape :=
  .record ⟨"Position", []⟩ [required "x" .number, required "y" .number]

def size : Shape :=
  .record ⟨"Size", []⟩ [required "width" .number, required "height" .number]

def positionedNode : Shape :=
  .record ⟨"PositionedNode", []⟩
    [required "node" node, required "position" position, required "absolute" position,
      default "frame" (.text "absolute") (.choice ["absolute", "relative"]),
      absent "size" size, default "display_label" (.text "") .text,
      absent "port_role" (.choice (PortRole.all.map (·.label))),
      absent "port_side" (.choice (PortSide.all.map (·.label)))]

def edgeStyle : Shape :=
  .record ⟨"EdgeStyle", []⟩
    [default "stroke" (.text "#000") .text, default "stroke_width" (.decimal 1.2) .number,
      absent "dash_array" .text, default "marker_end" (.text "arrowclosed") .text]

def plainStyle : Json :=
  .object [("stroke", .text "#000"), ("stroke_width", .decimal 1.2),
    ("marker_end", .text "arrowclosed")]

def positionedEdge : Shape :=
  .record ⟨"PositionedEdge", []⟩ [required "edge" edge, default "style" plainStyle edgeStyle]

def drawing : Shape :=
  .record ⟨"PositionedGraph", []⟩
    [items "nodes" positionedNode, items "edges" positionedEdge,
      default "width" (.decimal 0.0) .number, default "height" (.decimal 0.0) .number]

end Shape

def records : List (String × Shape) :=
  [("DigitalTwin", .digitalTwin), ("OriginalTwin", .part), ("Connection", .connection),
    ("Goal", .goal), ("Allocation", .allocation), ("TwinSystem", .system),
    ("DarTwinSlice", .slice), ("DarTrans", .transform), ("DarTwinModel", .model),
    ("RootNode", .rootNode), ("SystemNode", .nodeOfKind .system),
    ("DigitalTwinNode", .nodeOfKind .digitalTwin),
    ("OriginalTwinNode", .nodeOfKind .part), ("PortNode", .nodeOfKind .port),
    ("GoalNode", .nodeOfKind .goal), ("Node", .node), ("Edge", .edge), ("Graph", .graph),
    ("Diagnostic", .diagnostic), ("Position", .position), ("Size", .size),
    ("PositionedNode", .positionedNode), ("EdgeStyle", .edgeStyle),
    ("PositionedEdge", .positionedEdge), ("PositionedGraph", .drawing)]

end TwinDiagram.Interchange
