import TwinDiagram.Text.Alphanumeric
import TwinDiagram.Text.Blank
import TwinDiagram.Text.Case

namespace TwinDiagram.Label

def isUpper (c : Char) : Bool := 'A' ≤ c && c ≤ 'Z'

def isLower (c : Char) : Bool := 'a' ≤ c && c ≤ 'z'

def isLowerOrDigit (c : Char) : Bool := isLower c || ('0' ≤ c && c ≤ '9')

def splitCapitals : List Char → List Char
  | [] => []
  | [a] => [a]
  | a :: b :: rest =>
    if isLowerOrDigit a && isUpper b then a :: ' ' :: splitCapitals (b :: rest)
    else a :: splitCapitals (b :: rest)

def splitAcronyms : List Char → List Char
  | [] => []
  | [a] => [a]
  | [a, b] => [a, b]
  | a :: b :: c :: rest =>
    if isUpper a && isUpper b && isLower c then a :: ' ' :: splitAcronyms (b :: c :: rest)
    else a :: splitAcronyms (b :: c :: rest)

def endsInLetter (w : List Char) : Bool :=
  match w.reverse with
  | [] => false
  | a :: before => isUpper a && !before.head?.any Text.isWordChar

def startsWithLetter : List Char → Bool
  | [] => false
  | a :: rest => isUpper a && !rest.head?.any Text.isWordChar

/-- Two words that meet in single capitals become one. A word that is itself such a capital joins
only once; `joined` says that it has. -/
def joinLetters (joined : Bool) : List (List Char) → List (List Char)
  | [] => []
  | [w] => [w]
  | w :: v :: rest =>
    if !joined && endsInLetter w && startsWithLetter v then
      match joinLetters (v.length == 1) (v :: rest) with
      | [] => [w]
      | x :: xs => (w ++ x) :: xs
    else w :: joinLetters false (v :: rest)

def isAcronym (w : List Char) : Bool := !w.isEmpty && w.all isUpper

def capitalize (w : List Char) : List Char :=
  if isAcronym w then w
  else match w with
    | [] => []
    | c :: rest => Text.upperChar c ++ Text.lowerChars rest

def wordsOf (cs : List Char) : List (List Char) :=
  let spaced := cs.map fun c ↦ if c = '_' then ' ' else c
  joinLetters false (Text.words (splitAcronyms (splitCapitals spaced)))

def formatChars (cs : List Char) : List Char :=
  Text.joinWith [' '] ((wordsOf cs).map capitalize)

/-- Drops the start of a text if `same` finds it character by character in `pattern`. -/
def dropPattern (same : Char → Char → Bool) : (pattern : List Char) → List Char → Option (List Char)
  | [], cs => some cs
  | _ :: _, [] => none
  | p :: ps, c :: cs => if same p c then dropPattern same ps cs else none

def sameLetter (p c : Char) : Bool :=
  c.toLower == p || (p == 'i' && (c == 'İ' || c == 'ı')) || (p == 's' && c == 'ſ')

/-- Replaces the first place where `pattern` stands and `fits` holds of what follows. -/
def replaceFirst (pattern replacement : List Char) (fits : List Char → Bool) :
    List Char → List Char
  | [] => []
  | c :: rest =>
    match dropPattern sameLetter pattern (c :: rest) with
    | some after =>
      if fits after then replacement ++ after
      else c :: replaceFirst pattern replacement fits rest
    | none => c :: replaceFirst pattern replacement fits rest

def format (s : String) : String := .ofList (formatChars s.toList)

def formatTwin (s : String) : String :=
  .ofList (replaceFirst ['d', 't'] ['D', 'T'] (fun after ↦ !after.head?.any Text.isWordChar)
    (formatChars s.toList))

def formatPort (s : String) : String :=
  .ofList (replaceFirst "multi sensor".toList "Multi-sensor".toList (fun _ ↦ true)
    (formatChars s.toList))

end TwinDiagram.Label
