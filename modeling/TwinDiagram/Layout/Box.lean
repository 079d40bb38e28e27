import TwinDiagram.Layout.Metrics
import TwinDiagram.Table

namespace TwinDiagram.Layout

structure Point (α : Type) where
  x : α
  y : α

structure Size (α : Type) where
  width : α
  height : α

/-- Where a node is drawn; a port has a role and a side as well. -/
structure Box (α : Type) where
  origin : Point α
  size : Size α
  role : Option PortRole
  side : Option PortSide

abbrev Boxes (α : Type) := Table (Box α)

variable {α : Type} [Scalar α]

namespace Box

def plain (x y width height : α) : Box α := ⟨⟨x, y⟩, ⟨width, height⟩, none, none⟩

def x (b : Box α) : α := b.origin.x

def y (b : Box α) : α := b.origin.y

def width (b : Box α) : α := b.size.width

def height (b : Box α) : α := b.size.height

def right (b : Box α) : α := b.x + b.width

def bottom (b : Box α) : α := b.y + b.height

/-- The centre of place `slot` of `count` evenly spaced along a side. -/
def slotOn (b : Box α) (side : PortSide) (slot count : Nat) : Point α :=
  let along (start length : α) : α :=
    start + length * Scalar.ofNat (slot + 1) / Scalar.ofNat (count + 1)
  match side with
  | .top => ⟨along b.x b.width, b.y⟩
  | .bottom => ⟨along b.x b.width, b.bottom⟩
  | .left => ⟨b.x, along b.y b.height⟩
  | .right => ⟨b.right, along b.y b.height⟩

end Box

def Point.outward (p : Point α) (side : PortSide) (distance : α) : Point α :=
  match side with
  | .top => ⟨p.x, p.y - distance⟩
  | .bottom => ⟨p.x, p.y + distance⟩
  | .left => ⟨p.x - distance, p.y⟩
  | .right => ⟨p.x + distance, p.y⟩

def Point.corner (p : Point α) (side : α) : Point α :=
  ⟨p.x - Scalar.half side, p.y - Scalar.half side⟩

def Metrics.portBox (m : Metrics α) (p : Point α) (role : PortRole) : Box α :=
  ⟨p, ⟨m.portSize, m.portSize⟩, some role, some role.side⟩

end TwinDiagram.Layout
