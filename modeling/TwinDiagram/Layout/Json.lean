import TwinDiagram.Graph.Json
import TwinDiagram.Layout.Drawing

namespace TwinDiagram.Layout

open Json (ofFields ofText?)

def numberAt (j : Json) (key : String) : Float := ((j.field? key).bind Json.decimal?).getD 0.0

def Point.toJson (p : Point Float) : Json := .object [("x", .decimal p.x), ("y", .decimal p.y)]

def Point.ofJson (j : Json) : Point Float := ⟨numberAt j "x", numberAt j "y"⟩

def Size.toJson (s : Size Float) : Json :=
  .object [("width", .decimal s.width), ("height", .decimal s.height)]

def Size.ofJson (j : Json) : Size Float := ⟨numberAt j "width", numberAt j "height"⟩

def PlacedNode.toJson (n : PlacedNode Float) : Json :=
  ofFields [("node", some n.node.toJson), ("position", some n.position.toJson),
    ("absolute", some n.absolute.toJson), ("frame", some (.text n.frame.label)),
    ("size", n.size.map Size.toJson), ("display_label", some (.text n.label)),
    ("port_role", ofText? (n.role.map (·.label))), ("port_side", ofText? (n.side.map (·.label)))]

def fieldAt (j : Json) (key : String) : Json := (j.field? key).getD .null

def PlacedNode.ofJson (j : Json) : PlacedNode Float where
  node := Node.ofJson (fieldAt j "node")
  position := Point.ofJson (fieldAt j "position")
  absolute := Point.ofJson (fieldAt j "absolute")
  frame := if j.textAt "frame" == Frame.relative.label then .relative else .absolute
  size := (j.field? "size").map Size.ofJson
  label := j.textAt "display_label"
  role := (j.textAt? "port_role").bind fun s ↦ PortRole.all.find? (·.label == s)
  side := (j.textAt? "port_side").bind fun s ↦ PortSide.all.find? (·.label == s)

def EdgeStyle.toJson (s : EdgeStyle Float) : Json :=
  ofFields [("stroke", some (.text s.stroke)), ("stroke_width", some (.decimal s.strokeWidth)),
    ("dash_array", ofText? s.dashes), ("marker_end", some (.text s.marker))]

def EdgeStyle.ofJson (j : Json) : EdgeStyle Float :=
  ⟨j.textAt "stroke", numberAt j "stroke_width", j.textAt? "dash_array", j.textAt "marker_end"⟩

def StyledEdge.toJson (e : StyledEdge Float) : Json :=
  .object [("edge", e.edge.toJson), ("style", e.style.toJson)]

def StyledEdge.ofJson (j : Json) : StyledEdge Float :=
  ⟨Edge.ofJson (fieldAt j "edge"), EdgeStyle.ofJson (fieldAt j "style")⟩

def Drawing.toJson (d : Drawing Float) : Json :=
  .object [("nodes", .list (d.nodes.map PlacedNode.toJson)),
    ("edges", .list (d.edges.map StyledEdge.toJson)), ("width", .decimal d.width),
    ("height", .decimal d.height)]

def Drawing.ofJson (j : Json) : Drawing Float :=
  ⟨(j.itemsAt "nodes").map PlacedNode.ofJson, (j.itemsAt "edges").map StyledEdge.ofJson,
    numberAt j "width", numberAt j "height"⟩

def Metrics.toJson (m : Metrics Float) : Json :=
  .object (Metrics.lengths.map (fun f ↦ (f.1, .decimal (f.2.1 m))) ++
    [(Metrics.columnsName, .int m.fallbackColumns),
      ("actuator_order", .list (m.actuatorOrder.map .text))])

end TwinDiagram.Layout
