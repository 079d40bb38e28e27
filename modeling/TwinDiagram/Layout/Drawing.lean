import TwinDiagram.Graph.OfModel
import TwinDiagram.Label
import TwinDiagram.Layout.Placement

namespace TwinDiagram.Layout

/-- A place counts from the corner of the canvas or of the parent. -/
inductive Frame where
  | absolute
  | relative
deriving DecidableEq, Repr

def Frame.label : Frame → String
  | absolute => "absolute"
  | relative => "relative"

structure PlacedNode (α : Type) where
  node : Node
  position : Point α
  absolute : Point α
  frame : Frame
  size : Option (Size α)
  label : String
  role : Option PortRole
  side : Option PortSide

structure EdgeStyle (α : Type) where
  stroke : String
  strokeWidth : α
  dashes : Option String
  marker : String

structure StyledEdge (α : Type) where
  edge : Edge
  style : EdgeStyle α

structure Drawing (α : Type) where
  nodes : List (PlacedNode α)
  edges : List (StyledEdge α)
  width : α
  height : α

def displayLabel (n : Node) : String :=
  match n.kind with
  | .digitalTwin => Label.formatTwin n.label
  | .port => Label.formatPort n.label
  | _ => Label.format n.label

/-- Graphs from other tools may have the label of an allocation only. -/
def isAllocation (e : Edge) : Bool :=
  e.kind == .allocation || e.label == some Graph.Build.allocationLabel

variable {α : Type} [Scalar α]

/-- Allocations are dashed. -/
def styleOf (e : Edge) : EdgeStyle α :=
  ⟨"#000", Scalar.ofNat 12 / Scalar.ofNat 10, if isAllocation e then some "6 4" else none,
    "arrowclosed"⟩

def canvasSize (m : Metrics α) (boxes : Boxes α) : Size α :=
  ⟨Scalar.maximum (boxes.values.map Box.right) + m.margin,
    Scalar.maximum (boxes.values.map Box.bottom) + m.margin⟩

def stretchRoots (g : Graph) (size : Size α) (boxes : Boxes α) : Boxes α :=
  (g.nodesOfKind .root).foldl (fun boxes n ↦
    match boxes.get? n.id with
    | some b => boxes.insert n.id { b with size }
    | none => boxes) boxes

def sizeOf? (s : Size α) : Option (Size α) :=
  if Scalar.isZero s.width && Scalar.isZero s.height then none else some s

/-- A node inside another that is drawn counts from that one. -/
def placedNode (boxes : Boxes α) (n : Node) (b : Box α) : PlacedNode α :=
  let (position, frame) := match boxes.get? (n.parent?.getD "") with
    | none => (b.origin, Frame.absolute)
    | some p => (⟨b.x - p.x, b.y - p.y⟩, Frame.relative)
  ⟨n, position, b.origin, frame, sizeOf? b.size, displayLabel n, b.role, b.side⟩

def drawBoxes (m : Metrics α) (g : Graph) (boxes : Boxes α) : Drawing α :=
  let size := canvasSize m boxes
  let boxes := stretchRoots g size boxes
  ⟨g.nodes.filterMap fun n ↦ (boxes.get? n.id).map (placedNode boxes n),
    g.edges.map fun e ↦ ⟨e, styleOf e⟩, size.width, size.height⟩

def draw (m : Metrics α) (g : Graph) : Drawing α := drawBoxes m g (place m g)

/-- The drawing, if there is room for all nodes that are under way at once. -/
def drawWithin (room : Nat) (m : Metrics α) (g : Graph) : Except DrawingFault (Drawing α) :=
  (placeWithin m g room).map (drawBoxes m g)

def summary (d : Drawing Float) : String :=
  let size := s!"{Decimal.writeWhole d.width}x{Decimal.writeWhole d.height}"
  s!"Laid out {d.nodes.length} nodes and {d.edges.length} edges on a {size} canvas"

end TwinDiagram.Layout
