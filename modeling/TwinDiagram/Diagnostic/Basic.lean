namespace TwinDiagram

inductive Severity where
  | info
  | warning
deriving DecidableEq, Repr

def Severity.label : Severity → String
  | .info => "info"
  | .warning => "warning"

inductive DiagnosticCode where
  | missingRoot
  | malformed
  | unterminatedBlock
  | duplicateSection
  | duplicateNode
  | duplicateEdge
  | ambiguousReference
  | unresolvedConnection
  | unresolvedAllocation
deriving DecidableEq, Repr

namespace DiagnosticCode

def label : DiagnosticCode → String
  | missingRoot => "missing-root"
  | malformed => "syntax"
  | unterminatedBlock => "unterminated-block"
  | duplicateSection => "duplicate-section"
  | duplicateNode => "duplicate-node"
  | duplicateEdge => "duplicate-edge"
  | ambiguousReference => "ambiguous-reference"
  | unresolvedConnection => "unresolved-connection"
  | unresolvedAllocation => "unresolved-allocation"

def all : List DiagnosticCode :=
  [missingRoot, malformed, unterminatedBlock, duplicateSection, duplicateNode, duplicateEdge,
    ambiguousReference, unresolvedConnection, unresolvedAllocation]

end DiagnosticCode

structure Diagnostic where
  severity : Severity
  code : DiagnosticCode
  message : String
  reference : Option String
  line : Option Int
  column : Option Int
deriving DecidableEq, Repr

namespace Diagnostic

def isWarning (d : Diagnostic) : Bool := d.severity == .warning

/-- The place, if the line is known, and the message behind severity and code. -/
def format (d : Diagnostic) : String :=
  let column := match d.column with
    | some c => toString c
    | none => "None"
  let place := match d.line with
    | some l => s!"{l}:{column}: "
    | none => ""
  s!"{place}{d.severity.label}[{d.code.label}] {d.message}"

end Diagnostic

end TwinDiagram
