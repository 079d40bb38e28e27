import TwinDiagram.File.Path

namespace TwinDiagram

/-- Files with their bytes, and the directories that are there beside those that hold a file. -/
structure Files where
  files : List (Address × ByteArray)
  directories : List Address

inductive AccessFault where
  | missing
  /-- A file stands where a directory is needed. -/
  | notDirectory
  | isDirectory
  /-- A file stands where a directory is to be made. -/
  | alreadyFile
  | nameTooLong
  /-- A path holds the NUL character. -/
  | nulInPath
deriving DecidableEq, Repr

namespace Files

def empty : Files := ⟨[], []⟩

def content? (fs : Files) (a : Address) : Option ByteArray := fs.files.lookup a

def isFile (fs : Files) (a : Address) : Bool := (fs.content? a).isSome

def isDirectory (fs : Files) (a : Address) : Bool :=
  a.isEmpty || fs.directories.any (a.isPrefixOf ·) ||
    fs.files.any fun f ↦ a.isPrefixOf f.1.dropLast

def walk (fs : Files) : Address → List String → Except AccessFault Address
  | a, [] => .ok a
  | a, part :: rest =>
    if !fs.isDirectory a then .error (if fs.isFile a then .notDirectory else .missing)
    else if maxNameBytes < part.utf8ByteSize then .error .nameTooLong
    else fs.walk (if part == ".." then a.dropLast else a ++ [part]) rest

def find (fs : Files) (here : Address) (p : Path) : Except AccessFault Address :=
  if p.hasNul then .error .nulInPath
  else if maxPathBytes < p.text.utf8ByteSize then .error .nameTooLong
  else fs.walk (if p.isAbsolute then [] else here) p.parts

/-- The file at the end of a path. That there is none is an answer, too; names that are too long are
a fault. -/
def fileAt? (fs : Files) (here : Address) (p : Path) :
    Except AccessFault (Option (Address × ByteArray)) :=
  match fs.find here p with
  | .ok a => .ok ((fs.content? a).map (a, ·))
  | .error .nameTooLong => .error .nameTooLong
  | .error _ => .ok none

def put (fs : Files) (a : Address) (bytes : ByteArray) : Files :=
  if fs.isFile a then
    { fs with files := fs.files.map fun f ↦ if f.1 == a then (a, bytes) else f }
  else { fs with files := fs.files ++ [(a, bytes)] }

def write (fs : Files) (a : Address) (bytes : ByteArray) : Except AccessFault Files :=
  if fs.isDirectory a then .error .isDirectory
  else if fs.isDirectory a.dropLast then .ok (fs.put a bytes)
  else .error (if fs.isFile a.dropLast then .notDirectory else .missing)

def remove (fs : Files) (gone : Address → Bool) : Files :=
  let (removed, kept) := fs.files.partition fun f ↦ gone f.1
  ⟨kept, fs.directories ++ removed.map (·.1.dropLast)⟩

def makeDirectory (fs : Files) (a : Address) : Except AccessFault Files :=
  if fs.isDirectory a then .ok fs
  else if fs.isFile a then .error .alreadyFile
  else if a.andAbove.any fs.isFile then .error .notDirectory
  else .ok { fs with directories := fs.directories ++ [a] }

def namesIn (fs : Files) (directory : Address) : List String :=
  fs.files.filterMap fun f ↦
    if f.1 != [] && f.1.dropLast == directory then f.1.getLast? else none

end Files

end TwinDiagram
