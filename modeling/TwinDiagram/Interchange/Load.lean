import TwinDiagram.Graph.Json
import TwinDiagram.Interchange.Records
import TwinDiagram.Json.Reader
import TwinDiagram.Text.Utf8

namespace TwinDiagram.Interchange

/-- Data arrive decoded, or as the bytes of a JSON text. -/
inductive Source where
  | decoded (j : Json)
  | encoded (bytes : ByteArray)

/-- A decoded text is JSON text itself. -/
def Source.ofJson : Json → Source
  | .text s => .encoded s.toUTF8
  | j => .decoded j

inductive Rejection where
  | notJson
  | fault (ofText : Bool) (f : Fault)

namespace Rejection

/-- The failing field, its path joined by dots. -/
def field? : Rejection → Option String
  | notJson => none
  | fault _ f =>
    let path := ".".intercalate f.path
    if path.isEmpty then none else some path

def message : Rejection → String
  | notJson => "Invalid JSON"
  | fault ofText f => f.cause.message ofText

def describe (what : String) (r : Rejection) : String :=
  let place := match r.field? with
    | some f => s!" at '{f}'"
    | none => ""
  s!"Invalid {what}{place}: {r.message}"

end Rejection

/-- What JSON text stands for; the text has to be UTF-8. -/
def decode (bytes : ByteArray) : Option Json :=
  match Text.decodeUtf8 bytes with
  | .ok cs => Json.readChars cs
  | .error _ => none

def readAs (interchange : Bool) (s : Shape) (source : Source) : Except Rejection Json :=
  match source with
  | .decoded j => (s.read ⟨false, interchange⟩ j).mapError (.fault false)
  | .encoded bytes =>
    match decode bytes with
    | none => .error .notJson
    | some j => (s.read ⟨true, interchange⟩ j).mapError (.fault true)

def Source.isText : Source → Bool
  | decoded _ => false
  | encoded _ => true

def loadModel (source : Source) : Except Rejection Model :=
  (readAs true .model source).map Model.ofJson

/-- Beyond the shape of its records, a graph has distinct nodes, and edges between them. -/
def loadGraph (source : Source) : Except Rejection Graph := do
  let g := Graph.ofJson (← readAs true .graph source)
  match Graph.fault? g.nodes g.edges with
  | none => return g
  | some f => throw (.fault source.isText ⟨f.path, .other f.message⟩)

/-- A published record on its own, without the rules of interchange. -/
def loadRecord (name : String) (data : Json) : Except Rejection Json := do
  match records.lookup name with
  | none => throw (.fault false ⟨[], .other s!"Unknown record '{name}'"⟩)
  | some s =>
    let j ← readAs false s (.decoded data)
    if name != "Graph" then return j
    let g := Graph.ofJson j
    match Graph.fault? g.nodes g.edges with
    | none => return j
    | some f => throw (.fault false ⟨[], .other f.message⟩)

end TwinDiagram.Interchange
