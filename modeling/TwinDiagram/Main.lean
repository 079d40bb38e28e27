import TwinDiagram.Command.Program

namespace TwinDiagram

/-- What is at an address, its directory being there: a file with its bytes, a directory (the empty
answer), or nothing. -/
def inspect (a : Address) : IO (Option (Option ByteArray)) := do
  try
    let bytes ← IO.FS.readBinFile a.text
    return some (some bytes)
  catch e =>
    match e with
    | .noFileOrDirectory .. => return none
    | _ => return some none

def survey (fs : Files) (start : Address) : List String → IO Files
  | [] => return fs
  | name :: rest => do
    let a := start ++ [name]
    if maxNameBytes < name.utf8ByteSize then return fs
    match ← inspect a with
    | none => return fs
    | some (some bytes) => return fs.put a bytes
    | some none => survey { fs with directories := fs.directories ++ [a] } a rest

def surveyAll (fs : Files) (addresses : List Address) : IO Files :=
  addresses.foldlM (fun fs a ↦ survey fs [] a) fs

def readable (here : Address) (args : List String) : List Address :=
  args.flatMap fun arg ↦
    let a := Address.ofPath here (.ofText arg)
    a :: a.andAbove.map (· ++ [Manifest.fileName])

def changes (old new : Files) : List (Address × ByteArray) :=
  new.files.filter fun f ↦ !(old.content? f.1).any (·.toList == f.2.toList)

def writeBack (old new : Files) : IO Unit := do
  new.directories.forM fun a ↦ IO.FS.createDirAll a.text
  (changes old new).forM fun f ↦ IO.FS.writeBinFile f.1.text f.2

def runOnDisk (environment : String) (args : List String) (here : Address) : IO UInt32 := do
  let seen ← surveyAll ⟨[], [here]⟩ (readable here args)
  let (_, trial) := Command.runIn environment args seen here
  let seen ← surveyAll seen ((changes seen trial.files).map Prod.fst)
  let (exit, s) := Command.runIn environment args seen here
  writeBack seen s.files
  s.output.forM fun line ↦ IO.println line
  s.errors.forM fun line ↦ IO.eprintln line
  match exit with
  | .crash c => IO.eprintln s!"Error: {c.text}"
  | .usage => Command.helpLines.forM fun line ↦ IO.eprintln line
  | _ => pure ()
  return exit.code.toUInt32

end TwinDiagram

def main (args : List String) : IO UInt32 := do
  let here := TwinDiagram.Path.ofText (toString (← IO.currentDir))
  TwinDiagram.runOnDisk "Lean 4" args (.ofPath [] here)
