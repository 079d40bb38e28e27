import TwinDiagram.File.Store
import TwinDiagram.Manifest

namespace TwinDiagram.Project

def findManifest (fs : Files) (start : Address) : Option Address :=
  let start : Address := if fs.isFile start then start.dropLast else start
  (start.andAbove.map (· ++ [Manifest.fileName])).find? fs.isFile

/-- The manifest that governs what a path leads to; names that are too long are a fault, and so is
the NUL character. -/
def findManifestFrom (fs : Files) (here : Address) (p : Path) :
    Except AccessFault (Option Address) :=
  let start := Address.ofPath here p
  if p.hasNul then .error .nulInPath
  else if maxPathBytes < (Address.text (start ++ [Manifest.fileName])).utf8ByteSize then
    .error .nameTooLong
  else match fs.walk [] start with
    | .error .nameTooLong => .error .nameTooLong
    | _ => .ok (findManifest fs start)

structure Settings where
  manifest : Manifest
  root : Option Address

def load (fs : Files) (start : Address) : Except (Address × ManifestFault) Settings :=
  match findManifest fs start with
  | none => .ok ⟨.standard, none⟩
  | some a =>
    match Manifest.read ((fs.content? a).getD .empty) with
    | .ok m => .ok ⟨m, some a.dropLast⟩
    | .error f => .error (a, f)

end TwinDiagram.Project
