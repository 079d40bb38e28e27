import TwinDiagram.Graph.OfModel
import TwinDiagram.Markup.Plain
import TwinDiagram.Project
import TwinDiagram.Text.Control

namespace TwinDiagram.Command

structure Session where
  files : Files
  here : Address
  /-- Less important lines are not logged. -/
  threshold : LogLevel
  output : List String
  errors : List String

def Session.start (files : Files) (here : Address) : Session := ⟨files, here, .warning, [], []⟩

inductive Crash where
  | access (f : AccessFault)
  | undecodable (f : Text.Utf8Fault)
  | manifest (f : ManifestFault)
  | metrics (f : Layout.ConfigFault)
  | build (f : Graph.BuildFault)
  | markup (f : Markup.Fault)
deriving DecidableEq, Repr

def Crash.text : Crash → String
  | access .missing => "a directory is missing"
  | access .notDirectory => "a file stands where a directory is needed"
  | access .isDirectory => "a directory stands where a file is needed"
  | access .alreadyFile => "a file stands where a directory is to be made"
  | access .nameTooLong => "a name is too long"
  | access .nulInPath => "a path holds the NUL character"
  | undecodable f => s!"{f.reason.message} at byte {f.offset}"
  | manifest f => (f.message? Manifest.fileName).getD s!"{Manifest.fileName} cannot be used"
  | metrics f => f.message
  | build _ => "the model has no graph"
  | markup .unmatched => "a closing tag has no opening one"
  | markup .action => "the parameters of an action cannot be read"
  | markup (.style _) => "a colour cannot be read"

inductive Halt where
  /-- All has been said. -/
  | failed
  | crashed (c : Crash)
deriving DecidableEq, Repr

abbrev Run := ExceptT Halt (StateM Session)

namespace Run

/-- Adds a line to the output as it is. -/
def draw (line : String) : Run Unit := modify fun s ↦ { s with output := s.output ++ [line] }

def spoken (line : String) : String := .ofList (Text.dropSequences line.toList)

def say (line : String) : Run Unit := draw (spoken line)

def note (line : String) : Run Unit := modify fun s ↦ { s with errors := s.errors ++ [line] }

def complain (line : String) : Run Unit := note (spoken line)

def sayAll (lines : List String) : Run Unit := lines.forM say

def failWith {α : Type} (line : String) : Run α := do
  complain line
  throw .failed

def crash {α : Type} (c : Crash) : Run α := throw (.crashed c)

def log (level : LogLevel) (logger message : String) : Run Unit := do
  if (← get).threshold.number ≤ level.number then note s!"{level.label} {logger}: {message}"

def access (change : Files → Except AccessFault Files) : Run Unit := do
  match change (← get).files with
  | .ok files => modify fun s ↦ { s with files }
  | .error f => crash (.access f)

end Run

end TwinDiagram.Command
