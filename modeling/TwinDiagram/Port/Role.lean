import TwinDiagram.Text.Blank
import TwinDiagram.Text.Case

namespace TwinDiagram

inductive PortRole where
  | sensor
  | actuator
  | unclassified
deriving DecidableEq, Repr

inductive PortSide where
  | top
  | bottom
  | left
  | right
deriving DecidableEq, Repr

namespace PortSide

def label : PortSide → String
  | top => "top"
  | bottom => "bottom"
  | left => "left"
  | right => "right"

def all : List PortSide := [top, bottom, left, right]

end PortSide

namespace PortRole

def label : PortRole → String
  | sensor => "sensor"
  | actuator => "actuator"
  | unclassified => "unclassified"

def all : List PortRole := [sensor, actuator, unclassified]

def side : PortRole → PortSide
  | sensor => .top
  | actuator => .bottom
  | unclassified => .left

def sensorWords : List (List Char) := ["sensor".toList, "input".toList]

def actuatorWords : List (List Char) := ["actuator".toList, "output".toList]

def mentions (words : List (List Char)) : List Char → Bool
  | [] => false
  | c :: rest => words.any (·.isPrefixOf (c :: rest)) || mentions words rest

def ofName (name : String) : PortRole :=
  let cs := Text.lowerChars name.toList
  if mentions sensorWords cs then sensor
  else if mentions actuatorWords cs then actuator
  else unclassified

/-- Leaves out `skip` characters, and then every word of a role. -/
def dropRoleWords (skip : Nat) : List Char → List Char
  | [] => []
  | c :: rest =>
    match skip with
    | skip + 1 => dropRoleWords skip rest
    | 0 =>
      match (sensorWords ++ actuatorWords).find? (·.isPrefixOf (c :: rest)) with
      | some word => dropRoleWords (word.length - 1) rest
      | none => c :: dropRoleWords 0 rest

def isSeparator (c : Char) : Bool := Text.isBlank c || c == '_' || c == '-'

/-- The part of a name that tells the ports of a role apart: in lower case, without the words of the
roles and without separators. -/
def key (name : String) : String :=
  .ofList ((dropRoleWords 0 (Text.lowerChars name.toList)).filter (! isSeparator ·))

end PortRole

end TwinDiagram
