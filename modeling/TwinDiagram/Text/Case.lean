import TwinDiagram.Text.CaseMap
import TwinDiagram.Text.Ranges

namespace TwinDiagram.Text

def shiftBy (runs : List CaseRun) (c : Char) : Char :=
  match runs.find? (·.has c.toNat) with
  | some r => Char.ofNat (c.toNat + r.offset).toNat
  | none => c

def casedBeside (cs : List Char) : Bool :=
  match cs.dropWhile (inRanges caseIgnorableRanges) with
  | [] => false
  | c :: _ => inRanges casedRanges c

/-- A sigma is final after a cased letter unless one follows; `before` is read backwards. -/
def lowerSigma (before rest : List Char) : Char :=
  if casedBeside before && !casedBeside rest then 'ς' else 'σ'

def lowerChar (before : List Char) (c : Char) (rest : List Char) : List Char :=
  if c.toNat < 0x80 then [c.toLower]
  else if c = 'Σ' then [lowerSigma before rest]
  else if c = 'İ' then ['i', '\u0307']
  else [shiftBy lowerRuns c]

def lowerFrom (before : List Char) : List Char → List Char
  | [] => []
  | c :: rest => lowerChar before c rest ++ lowerFrom (c :: before) rest

def lowerChars (cs : List Char) : List Char := lowerFrom [] cs

def upperChar (c : Char) : List Char :=
  if c.toNat < 0x80 then [c.toUpper]
  else match upperExpansions.lookup c.toNat with
    | some codes => codes.map Char.ofNat
    | none => [shiftBy upperRuns c]

def upperChars (cs : List Char) : List Char := cs.flatMap upperChar

def lower (s : String) : String := .ofList (lowerChars s.toList)

def upper (s : String) : String := .ofList (upperChars s.toList)

end TwinDiagram.Text
