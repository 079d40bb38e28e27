import TwinDiagram.Text.Blank

namespace TwinDiagram

/-- The names between slashes; empty names and single dots are dropped. Two slashes in front are
kept apart from one. -/
structure Path where
  root : String
  parts : List String
deriving DecidableEq, Repr

namespace Path

def slashPieces (cs : List Char) : List (List Char) := Text.splitBy (· == '/') cs

def isPart (part : List Char) : Bool := !part.isEmpty && part != ['.']

def ofText (s : String) : Path :=
  let cs := s.toList
  let slashes := (cs.takeWhile (· == '/')).length
  let root := if slashes = 0 then "" else if slashes = 2 then "//" else "/"
  ⟨root, ((slashPieces cs).filter isPart).map String.ofList⟩

def hasNul (p : Path) : Bool := p.parts.any (·.toList.contains '\u0000')

def isAbsolute (p : Path) : Bool := !p.root.isEmpty

/-- The path without names is a dot, unless it starts at the root. -/
def text (p : Path) : String :=
  let joined := "/".intercalate p.parts
  if p.root.isEmpty && p.parts.isEmpty then "." else p.root ++ joined

end Path

def maxNameBytes : Nat := 255

def maxPathBytes : Nat := 4095

/-- Where a file is: the names on the way from the root. -/
abbrev Address := List String

namespace Address

def text (p : Address) : String := "/" ++ "/".intercalate p

def follow (start : Address) (parts : List String) : Address :=
  parts.foldl (fun a part ↦ if part == ".." then a.dropLast else a ++ [part]) start

def ofPath (here : Address) (p : Path) : Address :=
  follow (if p.isAbsolute then [] else here) p.parts

def andAbove (p : Address) : List Address :=
  (List.range (p.length + 1)).map fun n ↦ p.take (p.length - n)

end Address

end TwinDiagram
