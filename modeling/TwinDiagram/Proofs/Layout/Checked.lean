import TwinDiagram.Layout.Drawing
import TwinDiagram.Proofs.Table

namespace TwinDiagram.Layout.Checked

variable {α : Type}

/-- The rules that place nodes; the grid gives each node a place of its own inside its parent. -/
inductive Rule where
  | goalRow
  | systemRow
  | twinRow
  | twinSide
  | frame
  | frameSide
  | origin
  | grid (slot : Nat)
deriving DecidableEq, Repr

/-- The journal tells which rule placed which node, the latest node last. -/
structure Canvas (α : Type) where
  boxes : Boxes α
  slots : Table Nat
  journal : List (Node × Rule)

def Canvas.empty : Canvas α := ⟨.empty, .empty, []⟩

/-- A node gets a box once. -/
def Canvas.put (c : Canvas α) (rule : Rule) (n : Node) (b : Box α) : Option (Canvas α) :=
  if c.boxes.contains n.id then none
  else some { c with boxes := c.boxes.insert n.id b, journal := c.journal ++ [(n, rule)] }

/-- A divisor, which is a count, must not be zero. The only other divisor is two. -/
def divisor (count : Nat) : Option Unit := guard (count ≠ 0)

variable [Scalar α] (m : Metrics α) (g : Graph)

def placeGoals (c : Canvas α) : Option (Canvas α) :=
  (sortGoals (g.nodesOfKind .goal)).zipIdx.foldlM (fun c n ↦ c.put .goalRow n.1 (goalBox m n.2)) c

def placeTwinPorts (twin : Box α) (ports : List Node) (c : Canvas α) : Option (Canvas α) :=
  (roleGroups m ports).foldlM (fun c (role, group) ↦
    group.zipIdx.foldlM (fun c (port, slot) ↦ do
      divisor (group.length + 1)
      let centre := twin.slotOn role.side slot group.length
      c.put .twinSide port (m.portBox (centre.corner m.portSize) role)) c) c

/-- The twins of a system share its width, unless there are none. -/
def placeDigitalTwins (system : Box α) (twins : List Node) (c : Canvas α) : Option (Canvas α) :=
  if twins.isEmpty then some c
  else do
    divisor twins.length
    (twins.zip (twinBoxes m system twins.length)).foldlM (fun c (twin, box) ↦ do
      let c ← c.put .twinRow twin box
      placeTwinPorts m box (g.childrenOfKind twin.id .port) c) c

/-- Looks for the partner of a port among the boxes at hand; a port without one has its place among
those that had none when their row was begun. -/
def placeFramePort (system : Box α) (reference : Option (Box α)) (role : PortRole)
    (unconnected : List Node) (c : Canvas α) (port : Node) : Option (Canvas α) := do
  let partner := partner? g c.boxes port.id
  let slot ← if partner.isSome then some 0 else unconnected.idxOf? port
  divisor (unconnected.length + 1)
  let point := boundaryPoint m system reference role.side partner slot unconnected.length
  c.put .frameSide port (m.portBox point role)

def placeFrameRow (system : Box α) (reference : Option (Box α)) (c : Canvas α)
    (row : PortRole × List Node) : Option (Canvas α) :=
  let unconnected := row.2.filter fun p ↦ (partner? g c.boxes p.id).isNone
  row.2.foldlM (placeFramePort m g system reference row.1 unconnected) c

def placePart (system : Box α) (twins : List Node) (c : Canvas α) (part : Node) :
    Option (Canvas α) := do
  let c ← c.put .frame part (.plain system.x system.y system.width system.height)
  let reference := twins.head?.bind fun t ↦ c.boxes.get? t.id
  (roleGroups m (g.childrenOfKind part.id .port)).foldlM (placeFrameRow m g system reference) c

def placeSystem (c : Canvas α) (system : Node) (index : Nat) : Option (Canvas α) := do
  let box := systemBox m index
  let twins := g.childrenOfKind system.id .digitalTwin
  let c ← c.put .systemRow system box
  let c ← placeDigitalTwins m g box twins c
  (g.childrenOfKind system.id .part).foldlM (placePart m g box twins) c

def placeSystems (c : Canvas α) : Option (Canvas α) :=
  (g.nodesOfKind .system).zipIdx.foldlM (fun c n ↦ placeSystem m g c n.1 n.2) c

def placeRoots (c : Canvas α) : Option (Canvas α) :=
  (g.nodesOfKind .root).foldlM (fun c n ↦
    if c.boxes.contains n.id then some c
    else c.put .origin n
      (.plain (Scalar.ofNat 0) (Scalar.ofNat 0) (Scalar.ofNat 0) (Scalar.ofNat 0))) c

def takeSlot (node : Node) (origin : Point α) (c : Canvas α) : Option (Box α × Canvas α) := do
  let parent := node.parent?.getD ""
  let slot := (c.slots.get? parent).getD 0
  divisor m.fallbackColumns
  let box := gridBox m origin slot
  let c ← c.put (.grid slot) node box
  return (box, { c with slots := c.slots.insert parent (slot + 1) })

def placeByRules (c : Canvas α) : Option (Canvas α) := do
  let c ← placeGoals m g c
  let c ← placeSystems m g c
  placeRoots g c

/-- What stops a drawing. -/
inductive Fault where
  /-- A check of a single step fails. -/
  | undefined
  /-- Too many nodes are under way at once, each inside the next. -/
  | tooDeep
deriving DecidableEq, Repr

def orUndefined {β : Type} : Option β → Except Fault β
  | some x => .ok x
  | none => .error .undefined

/-- Places a node, its parent first, with at most `room` nodes under way at once. -/
def placeRemaining : (room : Nat) → (others : List Node) → Node → Canvas α →
    Except Fault (Box α × Canvas α)
  | 0, _, node, c =>
    match c.boxes.get? node.id with
    | some box => .ok (box, c)
    | none => .error .tooDeep
  | room + 1, others, node, c =>
    match c.boxes.get? node.id with
    | some box => .ok (box, c)
    | none =>
      match others.find? (·.id == node.parent?.getD "") with
      | none => orUndefined (takeSlot m node ⟨Scalar.ofNat 0, Scalar.ofNat 0⟩ c)
      | some parent => do
        let (box, c) ← placeRemaining room (without parent.id others) parent c
        orUndefined (takeSlot m node box.origin c)

def fill (room : Nat) (c : Canvas α) : Except Fault (Canvas α) :=
  g.nodes.foldlM (fun c n ↦ (placeRemaining m room (without n.id g.nodes) n c).map Prod.snd) c

def stretchRoots (size : Size α) (boxes : Boxes α) : Option (Boxes α) :=
  (g.nodesOfKind .root).foldlM (fun boxes n ↦ do
    let b ← boxes.get? n.id
    return boxes.insert n.id { b with size }) boxes

def drawBoxes (boxes : Boxes α) : Option (Drawing α) := do
  let size := canvasSize m boxes
  let boxes ← stretchRoots g size boxes
  let nodes ← g.nodes.mapM fun n ↦ (boxes.get? n.id).map (placedNode boxes n)
  return ⟨nodes, g.edges.map fun e ↦ ⟨e, styleOf e⟩, size.width, size.height⟩

/-- The drawing comes with its journal. -/
def draw (room : Nat) : Except Fault (Drawing α × List (Node × Rule)) := do
  let c ← orUndefined (placeByRules m g .empty)
  let c ← fill m g room c
  let d ← orUndefined (drawBoxes m g c.boxes)
  return (d, c.journal)

end TwinDiagram.Layout.Checked
