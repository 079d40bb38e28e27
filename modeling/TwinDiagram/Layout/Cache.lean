import TwinDiagram.Digest.Sha256
import TwinDiagram.File.Store
import TwinDiagram.Interchange.Load
import TwinDiagram.Json.Printer
import TwinDiagram.Layout.Json

namespace TwinDiagram.Layout.Cache

/-- Changes whenever a graph would be drawn differently. -/
def engineVersion : String := "1.0"

/-- What a drawing depends on, as text. -/
def keyText (version : String) (g : Graph) (m : Metrics Float) : String :=
  let parts := Json.object [("graph", g.toJson), ("metrics", m.toJson),
    ("engine_version", .text version)]
  parts.sortKeys.render .line

def key (g : Graph) (m : Metrics Float) : String :=
  Sha256.hexDigest (keyText engineVersion g m).toUTF8.toList

def suffix : String := ".json"

def entry (directory : Address) (g : Graph) (m : Metrics Float) : Address :=
  directory ++ [key g m ++ suffix]

/-- The text of an entry. -/
def entryText (d : Drawing Float) : String := d.toJson.render (.indented 2)

/-- A drawing of the published shape. -/
def readEntry (bytes : ByteArray) : Except Text.Utf8Fault (Option (Drawing Float)) := do
  let _ ← Text.decodeUtf8 bytes
  match Interchange.readAs false .drawing (.encoded bytes) with
  | .ok j => return some (.ofJson j)
  | .error _ => return none

inductive Lookup where
  | absent
  | unreadable
  | found (d : Drawing Float)

def Lookup.drawing? : Lookup → Option (Drawing Float)
  | found d => some d
  | _ => none

def get (fs : Files) (directory : Address) (g : Graph) (m : Metrics Float) :
    Except Text.Utf8Fault Lookup :=
  let a := entry directory g m
  match fs.content? a with
  | some bytes => do
    match ← readEntry bytes with
    | some d => return .found d
    | none => return .unreadable
  | none => .ok (if fs.isDirectory a then .unreadable else .absent)

def set (fs : Files) (directory : Address) (g : Graph) (d : Drawing Float) (m : Metrics Float) :
    Except AccessFault Files :=
  fs.write (entry directory g m) (entryText d).toUTF8

def isEntry (directory : Address) (a : Address) : Bool :=
  match a.getLast? with
  | some name => a.dropLast == directory && suffix.toList.isSuffixOf name.toList
  | none => false

def invalidate (fs : Files) (directory : Address) (g : Graph) (m : Metrics Float) : Files :=
  fs.remove (· == entry directory g m)

def clear (fs : Files) (directory : Address) : Files := fs.remove (isEntry directory)

def directoryOf (root : Address) : Address := root ++ [".dartwin", "cache", "layouts"]

/-- Makes the directory of the entries. -/
def make (fs : Files) (directory : Address) : Except AccessFault Files :=
  fs.makeDirectory directory

end TwinDiagram.Layout.Cache
