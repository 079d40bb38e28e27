import TwinDiagram.File.Path
import TwinDiagram.Interchange.Load
import TwinDiagram.Layout.Metrics
import TwinDiagram.Parser.State

namespace TwinDiagram

structure Location where
  file : Option Path
  line : Int
  column : Int
deriving DecidableEq, Repr

def Location.format (l : Location) : String :=
  let file := match l.file with
    | some p => p.text
    | none => "<text>"
  s!"{file}:{l.line}:{l.column}"

inductive FailureKind where
  | general
  | statement
  | interchange (field : Option String)
  | config
deriving DecidableEq, Repr

structure Failure where
  kind : FailureKind
  message : String
  location : Option Location
deriving DecidableEq, Repr

namespace Failure

/-- The place on a line of its own, then the message. -/
def text (f : Failure) : String :=
  match f.location with
  | some l => s!"{l.format}\n{f.message}"
  | none => f.message

def field? (f : Failure) : Option String :=
  match f.kind with
  | .interchange field => field
  | _ => none

end Failure

def Parser.Mismatch.failure (m : Parser.Mismatch) : Failure :=
  ⟨.statement, m.message, some ⟨none, m.found.line, m.found.column⟩⟩

def Interchange.Rejection.failure (what : String) (r : Interchange.Rejection) : Failure :=
  ⟨.interchange r.field?, r.describe what, none⟩

end TwinDiagram
