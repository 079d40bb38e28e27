import TwinDiagram.Diagnostic.Basic
import TwinDiagram.Json.Basic

namespace TwinDiagram.Diagnostic

def toJson (d : Diagnostic) : Json :=
  Json.ofFields [("severity", some (.text d.severity.label)), ("code", some (.text d.code.label)),
    ("message", some (.text d.message)), ("reference", Json.ofText? d.reference),
    ("line", d.line.map .int), ("column", d.column.map .int)]

def ofJson (j : Json) : Diagnostic :=
  let severity := if j.textAt "severity" == Severity.warning.label then .warning else .info
  let code := (DiagnosticCode.all.find? (·.label == j.textAt "code")).getD .malformed
  ⟨severity, code, j.textAt "message", j.textAt? "reference",
    (j.field? "line").bind Json.integer?, (j.field? "column").bind Json.integer?⟩

end TwinDiagram.Diagnostic
