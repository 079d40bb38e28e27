import TwinDiagram.Decimal.Style
import TwinDiagram.Layout.Scalar
import TwinDiagram.Port.Role

namespace TwinDiagram.Layout

structure Metrics (α : Type) where
  margin : α
  goalRowX : α
  goalRowY : α
  goalPitch : α
  goalWidth : α
  goalHeight : α
  systemRowX : α
  systemRowY : α
  systemWidth : α
  systemHeight : α
  systemGap : α
  systemPadding : α
  twinOffsetY : α
  twinWidth : α
  twinHeight : α
  twinGap : α
  portSize : α
  boundaryOffset : α
  fallbackX : α
  fallbackY : α
  fallbackPitch : α
  fallbackColumns : Nat
  actuatorOrder : List String
deriving DecidableEq

def defaultActuatorOrder : List String := ["irrigation", "human", "ventilation"]

namespace Metrics

variable {α : Type}

def standard [Scalar α] : Metrics α where
  margin := Scalar.ofNat 20
  goalRowX := Scalar.ofNat 120
  goalRowY := Scalar.ofNat 28
  goalPitch := Scalar.ofNat 260
  goalWidth := Scalar.ofNat 210
  goalHeight := Scalar.ofNat 88
  systemRowX := Scalar.ofNat 100
  systemRowY := Scalar.ofNat 188
  systemWidth := Scalar.ofNat 520
  systemHeight := Scalar.ofNat 360
  systemGap := Scalar.ofNat 40
  systemPadding := Scalar.ofNat 40
  twinOffsetY := Scalar.ofNat 90
  twinWidth := Scalar.ofNat 300
  twinHeight := Scalar.ofNat 160
  twinGap := Scalar.ofNat 40
  portSize := Scalar.ofNat 18
  boundaryOffset := Scalar.ofNat 54
  fallbackX := Scalar.ofNat 120
  fallbackY := Scalar.ofNat 160
  fallbackPitch := Scalar.ofNat 140
  fallbackColumns := 4
  actuatorOrder := defaultActuatorOrder

def lengths : List (String × (Metrics α → α) × (α → Metrics α → Metrics α)) :=
  [("margin", margin, fun x m ↦ { m with margin := x }),
    ("goal_row_x", goalRowX, fun x m ↦ { m with goalRowX := x }),
    ("goal_row_y", goalRowY, fun x m ↦ { m with goalRowY := x }),
    ("goal_pitch", goalPitch, fun x m ↦ { m with goalPitch := x }),
    ("goal_width", goalWidth, fun x m ↦ { m with goalWidth := x }),
    ("goal_height", goalHeight, fun x m ↦ { m with goalHeight := x }),
    ("system_row_x", systemRowX, fun x m ↦ { m with systemRowX := x }),
    ("system_row_y", systemRowY, fun x m ↦ { m with systemRowY := x }),
    ("system_width", systemWidth, fun x m ↦ { m with systemWidth := x }),
    ("system_height", systemHeight, fun x m ↦ { m with systemHeight := x }),
    ("system_gap", systemGap, fun x m ↦ { m with systemGap := x }),
    ("system_padding", systemPadding, fun x m ↦ { m with systemPadding := x }),
    ("twin_offset_y", twinOffsetY, fun x m ↦ { m with twinOffsetY := x }),
    ("twin_width", twinWidth, fun x m ↦ { m with twinWidth := x }),
    ("twin_height", twinHeight, fun x m ↦ { m with twinHeight := x }),
    ("twin_gap", twinGap, fun x m ↦ { m with twinGap := x }),
    ("port_size", portSize, fun x m ↦ { m with portSize := x }),
    ("boundary_offset", boundaryOffset, fun x m ↦ { m with boundaryOffset := x }),
    ("fallback_x", fallbackX, fun x m ↦ { m with fallbackX := x }),
    ("fallback_y", fallbackY, fun x m ↦ { m with fallbackY := x }),
    ("fallback_pitch", fallbackPitch, fun x m ↦ { m with fallbackPitch := x })]

def columnsName : String := "fallback_columns"

def isName (name : String) : Bool :=
  name == columnsName || (lengths (α := Float)).any (·.1 == name)

end Metrics

/-- What a project says about its drawings. -/
structure Config where
  actuatorOrder : List String
  metrics : List (String × Float)
  cache : Bool

def Config.standard : Config := ⟨defaultActuatorOrder, [], true⟩

inductive ConfigFault where
  | unknownMetrics (names : List String)
  /-- The number of columns is not a number. -/
  | columnsUndefined
  | columnsInfinite
deriving DecidableEq, Repr

def ConfigFault.message : ConfigFault → String
  | unknownMetrics names => "Unknown layout metric(s): " ++ ", ".intercalate names
  | columnsUndefined => "cannot convert float NaN to integer"
  | columnsInfinite => "cannot convert float infinity to integer"

def columnsOf (x : Float) : Except ConfigFault Nat :=
  match Decimal.truncate x with
  | some n => .ok (max 1 n.toNat)
  | none => .error (if x.isNaN then .columnsUndefined else .columnsInfinite)

def Metrics.override (m : Metrics Float) (name : String) (x : Float) :
    Except ConfigFault (Metrics Float) :=
  if name == columnsName then return { m with fallbackColumns := ← columnsOf x }
  else match lengths.find? (·.1 == name) with
    | some (_, _, set) => .ok (set x m)
    | none => .error (.unknownMetrics [name])

/-- Names that are no metrics are refused together, in order. -/
def Metrics.ofConfig (c : Config) : Except ConfigFault (Metrics Float) :=
  match (c.metrics.map Prod.fst).filter (! Metrics.isName ·) with
  | [] =>
    c.metrics.foldlM (fun m e ↦ m.override e.1 e.2)
      { Metrics.standard with actuatorOrder := c.actuatorOrder.map PortRole.key }
  | unknown => .error (.unknownMetrics (unknown.mergeSort fun a b ↦ decide (a ≤ b)))

end TwinDiagram.Layout
