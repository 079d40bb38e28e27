import TwinDiagram.File.Path
import TwinDiagram.Layout.Metrics
import TwinDiagram.Text.Case
import TwinDiagram.Text.Utf8
import TwinDiagram.Toml.Reader

namespace TwinDiagram

inductive LogLevel where
  | debug
  | info
  | warning
  | error
  | critical
deriving DecidableEq, Repr

namespace LogLevel

def label : LogLevel → String
  | debug => "DEBUG"
  | info => "INFO"
  | warning => "WARNING"
  | error => "ERROR"
  | critical => "CRITICAL"

def number : LogLevel → Nat
  | debug => 10
  | info => 20
  | warning => 30
  | error => 40
  | critical => 50

def all : List LogLevel := [debug, info, warning, error, critical]

def ofLabel? (s : String) : Option LogLevel := all.find? (·.label == s)

end LogLevel

structure Manifest where
  name : Toml
  layout : Layout.Config
  level : LogLevel

inductive ManifestFault where
  | undecodable (f : Text.Utf8Fault)
  | malformed
  /-- An integer is too long to be read or written. -/
  | tooLong
  /-- Lists or tables lie too deep in each other. -/
  | tooDeep
  /-- A section is not a table. -/
  | notSection
  | notTexts
  | notMetrics
  | notNumber (metric : String)
  /-- A metric lies beyond the range of numbers. -/
  | beyondRange
  | unknownLevel (spelling : String)
deriving DecidableEq, Repr

def ManifestFault.message? (file : String) : ManifestFault → Option String
  | malformed => some s!"Invalid TOML in {file}"
  | notTexts => some "'layout.actuator_order' must be a list of strings"
  | notMetrics => some "'layout.metrics' must be a table"
  | notNumber metric => some s!"'layout.metrics.{metric}' must be a number"
  | unknownLevel spelling => some s!"Unknown log level '{spelling}' in {file}"
  | undecodable _ => none
  | tooLong => none
  | tooDeep => none
  | notSection => none
  | beyondRange => none

namespace Manifest

def standard : Manifest := ⟨.text "unnamed", .standard, .warning⟩

def section? (settings : Toml.Fields) (name : String) : Except ManifestFault Toml.Fields :=
  match settings.lookup name with
  | none => .ok []
  | some (.table fields) => .ok fields
  | some _ => .error .notSection

def texts : Toml → Except ManifestFault (List String)
  | .list items =>
    match items.mapM Toml.text? with
    | some names => .ok names
    | none => .error .notTexts
  | _ => .error .notTexts

def metric (name : String) : Toml → Except ManifestFault Float
  | .decimal x => .ok x
  | .int n =>
    match Decimal.ofInt? n with
    | some x => .ok x
    | none => .error .beyondRange
  | _ => .error (.notNumber name)

def metrics : Toml → Except ManifestFault (List (String × Float))
  | .table fields => fields.mapM fun f ↦ do return (f.1, ← metric f.1 f.2)
  | _ => .error .notMetrics

def setting {α : Type} (fields : Toml.Fields) (name : String) (default : α)
    (read : Toml → Except ManifestFault α) : Except ManifestFault α :=
  match fields.lookup name with
  | none => .ok default
  | some v => read v

def layoutOf (fields : Toml.Fields) : Except ManifestFault Layout.Config := do
  let order ← setting fields "actuator_order" Layout.defaultActuatorOrder texts
  let overrides ← setting fields "metrics" [] metrics
  let cache ← setting fields "cache" true fun v ↦ .ok v.isTrue
  return ⟨order, overrides, cache⟩

def levelOf (v : Toml) : Except ManifestFault LogLevel :=
  match v.unwritable? with
  | some .tooLong => .error .tooLong
  | some .tooDeep => .error .tooDeep
  | none =>
    let spelling := Text.upper v.spelling
    match LogLevel.ofLabel? spelling with
    | some level => .ok level
    | none => .error (.unknownLevel spelling)

def ofSettings (settings : Toml.Fields) : Except ManifestFault Manifest := do
  let layout ← layoutOf (← section? settings "layout")
  let level ← setting (← section? settings "logging") "level" .warning levelOf
  let project ← section? settings "project"
  return ⟨(project.lookup "name").getD standard.name, layout, level⟩

def read (bytes : ByteArray) : Except ManifestFault Manifest := do
  let text ← (Text.readBytes bytes).mapError .undecodable
  let settings ← (Toml.read text).mapError fun
    | .malformed => .malformed
    | .tooLong => .tooLong
    | .tooDeep => .tooDeep
  ofSettings settings

def fileName : String := "dartwin.toml"

end Manifest

end TwinDiagram
