import TwinDiagram.Command.Grid
import TwinDiagram.Diagnostic.Basic

namespace TwinDiagram.Command

inductive ReportFormat where
  | human
  | editor
  | table
deriving DecidableEq, Repr

namespace ReportFormat

def ofName (name : String) : ReportFormat :=
  if name == "vscode" then editor
  else if name == "table" then table
  else human

def humanLine (file : String) (d : Diagnostic) : String := s!"{file}:{d.format}"

def orOne : Option Int → Int
  | some n => if n = 0 then 1 else n
  | none => 1

def editorLine (file : String) (d : Diagnostic) : String :=
  s!"{file}:{orOne d.line}:{orOne d.column}: {d.severity.label}: {d.message}"

def gridRow (d : Diagnostic) : List String :=
  [(d.line.map toString).getD "", d.severity.label, d.code.label, d.message]

def grid (file : String) (ds : List Diagnostic) : Grid where
  title := file
  columns := [⟨"Line", true⟩, ⟨"Severity", false⟩, ⟨"Code", false⟩, ⟨"Message", false⟩]
  rows := ds.map gridRow

def lines (format : ReportFormat) (file : String) (ds : List Diagnostic) :
    Except Markup.Fault (List String) :=
  match format with
  | human => .ok (ds.map (humanLine file))
  | editor => .ok (ds.map (editorLine file))
  | table =>
    if ds.isEmpty then .ok ["No diagnostics."] else (grid file ds).plain.map Grid.lines

end ReportFormat

end TwinDiagram.Command
