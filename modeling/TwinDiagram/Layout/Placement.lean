import TwinDiagram.Graph.Basic
import TwinDiagram.Layout.Box
import TwinDiagram.Port.Order

namespace TwinDiagram.Layout

variable {α : Type} [Scalar α] (m : Metrics α) (g : Graph)

def sortGoals (goals : List Node) : List Node :=
  goals.mergeSort fun a b ↦ a.label < b.label || (a.label == b.label && decide (a.id ≤ b.id))

def goalBox (index : Nat) : Box α :=
  .plain (m.goalRowX + Scalar.ofNat index * m.goalPitch) m.goalRowY m.goalWidth m.goalHeight

def placeGoals (boxes : Boxes α) : Boxes α :=
  (sortGoals (g.nodesOfKind .goal)).zipIdx.foldl (fun boxes n ↦
    boxes.insert n.1.id (goalBox m n.2)) boxes

def systemBox (index : Nat) : Box α :=
  .plain (m.systemRowX + Scalar.ofNat index * (m.systemWidth + m.systemGap)) m.systemRowY
    m.systemWidth m.systemHeight

def twinWidthIn (system : Box α) (count : Nat) : α :=
  let available := system.width - Scalar.ofNat 2 * m.systemPadding
    - Scalar.ofNat (count - 1) * m.twinGap
  Scalar.greatest (Scalar.least m.twinWidth (available / Scalar.ofNat count)) m.portSize

def twinBoxes (system : Box α) (count : Nat) : List (Box α) :=
  let width := twinWidthIn m system count
  let group := Scalar.ofNat count * width + Scalar.ofNat (count - 1) * m.twinGap
  let start := system.x + (system.width - group) / Scalar.ofNat 2
  (List.range count).map fun i ↦
    .plain (start + Scalar.ofNat i * (width + m.twinGap)) (system.y + m.twinOffsetY) width
      m.twinHeight

def roleGroups (ports : List Node) : List (PortRole × List Node) :=
  (PortRole.all.map fun role ↦
    (role, Port.sortBy m.actuatorOrder Node.label
      (ports.filter fun p ↦ PortRole.ofName p.label == role))).filter (! ·.2.isEmpty)

def placeTwinPorts (twin : Box α) (ports : List Node) (boxes : Boxes α) : Boxes α :=
  (roleGroups m ports).foldl (fun boxes (role, group) ↦
    group.zipIdx.foldl (fun boxes (port, slot) ↦
      let centre := twin.slotOn role.side slot group.length
      boxes.insert port.id (m.portBox (centre.corner m.portSize) role)) boxes) boxes

def placeDigitalTwins (system : Box α) (twins : List Node) (boxes : Boxes α) : Boxes α :=
  (twins.zip (twinBoxes m system twins.length)).foldl (fun boxes (twin, box) ↦
    placeTwinPorts m box (g.childrenOfKind twin.id .port) (boxes.insert twin.id box)) boxes

def otherEnd (id : String) (e : Edge) : Option String :=
  if e.source = id then some e.target else if e.target = id then some e.source else none

def isOnDigitalTwin (id : String) : Bool :=
  match g.node? id with
  | none => false
  | some n => (g.node? (n.parent?.getD "")).any (·.kind == .digitalTwin)

/-- The first placed port of a digital twin that a connection joins to a port. -/
def partner? (boxes : Boxes α) (port : String) : Option (Box α) :=
  (g.edgesOfKind .connection).findSome? fun e ↦
    match otherEnd port e with
    | none => none
    | some other => if isOnDigitalTwin g other then boxes.get? other else none

/-- A port of a part lies beyond the port it is connected to. Others are spread beyond the
first digital twin, or along the edge of a system without one. -/
def boundaryPoint (system : Box α) (reference : Option (Box α)) (side : PortSide)
    (partner : Option (Box α)) (slot count : Nat) : Point α :=
  match partner, reference with
  | some p, _ => p.origin.outward side m.boundaryOffset
  | none, some twin =>
    ((twin.slotOn side slot count).corner m.portSize).outward side m.boundaryOffset
  | none, none => (system.slotOn side slot count).corner m.portSize

/-- Places the ports of one role; `slot` counts those without a partner. -/
def placeBoundaryPorts (system : Box α) (reference : Option (Box α)) (role : PortRole)
    (count : Nat) : (slot : Nat) → List (Node × Option (Box α)) → Boxes α → Boxes α
  | _, [], boxes => boxes
  | slot, (port, partner) :: rest, boxes =>
    let point := boundaryPoint m system reference role.side partner slot count
    placeBoundaryPorts system reference role count (if partner.isSome then slot else slot + 1) rest
      (boxes.insert port.id (m.portBox point role))

def placePart (system : Box α) (twins : List Node) (boxes : Boxes α) (part : Node) :
    Boxes α :=
  let boxes := boxes.insert part.id (.plain system.x system.y system.width system.height)
  let reference := twins.head?.bind fun t ↦ boxes.get? t.id
  (roleGroups m (g.childrenOfKind part.id .port)).foldl (fun boxes (role, group) ↦
    let ports := group.map fun p ↦ (p, partner? g boxes p.id)
    let count := (ports.filter (·.2.isNone)).length
    placeBoundaryPorts m system reference role count 0 ports boxes) boxes

def placeSystem (boxes : Boxes α) (system : Node) (index : Nat) : Boxes α :=
  let box := systemBox m index
  let twins := g.childrenOfKind system.id .digitalTwin
  let boxes := placeDigitalTwins m g box twins (boxes.insert system.id box)
  (g.childrenOfKind system.id .part).foldl (placePart m g box twins) boxes

def placeSystems (boxes : Boxes α) : Boxes α :=
  (g.nodesOfKind .system).zipIdx.foldl (fun boxes n ↦ placeSystem m g boxes n.1 n.2) boxes

def placeRoots (boxes : Boxes α) : Boxes α :=
  (g.nodesOfKind .root).foldl (fun boxes n ↦
    if boxes.contains n.id then boxes
    else boxes.insert n.id
      (.plain (Scalar.ofNat 0) (Scalar.ofNat 0) (Scalar.ofNat 0) (Scalar.ofNat 0))) boxes

structure Filling (α : Type) where
  boxes : Boxes α
  slots : Table Nat

/-- The box of grid place `slot` inside a parent at `origin`. -/
def gridBox (origin : Point α) (slot : Nat) : Box α :=
  .plain
    (origin.x + m.fallbackX + Scalar.ofNat (slot % m.fallbackColumns) * m.fallbackPitch)
    (origin.y + m.fallbackY + Scalar.ofNat (slot / m.fallbackColumns) * m.fallbackPitch)
    (Scalar.ofNat 0) (Scalar.ofNat 0)

def takeSlot (node : Node) (origin : Point α) (f : Filling α) : Box α × Filling α :=
  let parent := node.parent?.getD ""
  let slot := (f.slots.get? parent).getD 0
  let box := gridBox m origin slot
  (box, ⟨f.boxes.insert node.id box, f.slots.insert parent (slot + 1)⟩)

def without (id : String) (nodes : List Node) : List Node := nodes.filter (·.id != id)

theorem length_without_lt {n : Node} {nodes : List Node} (h : n ∈ nodes) :
    (without n.id nodes).length < nodes.length :=
  List.length_filter_lt_length_iff_exists.mpr ⟨n, h, by simp⟩

/-- Places a node that no rule has placed, its parent first. `others` are the nodes that are not
under way already, so that a circle of parents ends. -/
def placeRemaining (others : List Node) (node : Node) (f : Filling α) : Box α × Filling α :=
  match f.boxes.get? node.id with
  | some box => (box, f)
  | none =>
    match _h : others.find? (·.id == node.parent?.getD "") with
    | none => takeSlot m node ⟨Scalar.ofNat 0, Scalar.ofNat 0⟩ f
    | some parent =>
      let (box, f) := placeRemaining (without parent.id others) parent f
      takeSlot m node box.origin f
termination_by others.length
decreasing_by exact length_without_lt (List.mem_of_find?_eq_some _h)

def fill (boxes : Boxes α) : Boxes α :=
  (g.nodes.foldl (fun f n ↦ (placeRemaining m (without n.id g.nodes) n f).2)
    ⟨boxes, .empty⟩).boxes

def placeByRules (boxes : Boxes α) : Boxes α :=
  placeRoots g (placeSystems m g (placeGoals m g boxes))

def place : Boxes α := fill m g (placeByRules m g .empty)

/-- Why a graph is not drawn. -/
inductive DrawingFault where
  /-- Too many nodes are under way at once, each inside the next. -/
  | tooDeep
deriving DecidableEq, Repr

/-- How many nodes may be under way at once. -/
def maxRoom : Nat := 984

/-- Places a node as `placeRemaining` does, with at most `room` nodes under way at once. -/
def placeRemainingWithin : (room : Nat) → (others : List Node) → Node → Filling α →
    Except DrawingFault (Box α × Filling α)
  | 0, _, node, f =>
    match f.boxes.get? node.id with
    | some box => .ok (box, f)
    | none => .error .tooDeep
  | room + 1, others, node, f =>
    match f.boxes.get? node.id with
    | some box => .ok (box, f)
    | none =>
      match others.find? (·.id == node.parent?.getD "") with
      | none => .ok (takeSlot m node ⟨Scalar.ofNat 0, Scalar.ofNat 0⟩ f)
      | some parent => do
        let (box, f) ← placeRemainingWithin room (without parent.id others) parent f
        return takeSlot m node box.origin f

def fillWithin (room : Nat) (boxes : Boxes α) : Except DrawingFault (Boxes α) :=
  (g.nodes.foldlM (fun f n ↦ (placeRemainingWithin m room (without n.id g.nodes) n f).map Prod.snd)
    ⟨boxes, .empty⟩).map Filling.boxes

def placeWithin (room : Nat) : Except DrawingFault (Boxes α) :=
  fillWithin m g room (placeByRules m g .empty)

end TwinDiagram.Layout
