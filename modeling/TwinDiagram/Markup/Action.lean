import TwinDiagram.Json.Reader
import TwinDiagram.Text.Alphanumeric
import TwinDiagram.Text.Blank

namespace TwinDiagram.Markup.Action

def skipGaps (cs : List Char) : List Char := cs.dropWhile fun c ↦ c == ' ' || c == '\t'

def afterText? (mark : Char) : List Char → Option (List Char)
  | [] => none
  | ['\\'] => none
  | '\\' :: _ :: rest => afterText? mark rest
  | c :: rest => if c = mark then some rest else afterText? mark rest

def afterNumber? (cs : List Char) : Option (List Char) :=
  (Json.readMagnitude false cs).map Prod.snd

def words : List String := ["True", "False", "None", "..."]

def afterWord? (cs : List Char) : Option (List Char) :=
  words.findSome? fun w ↦ Json.dropWord w.toList cs

def afterItems? (after? : List Char → Option (List Char)) :
    (steps : Nat) → List Char → Option (List Char)
  | 0, _ => none
  | steps + 1, cs =>
    match skipGaps cs with
    | ')' :: rest => some rest
    | cs =>
      match (after? cs).map skipGaps with
      | some (',' :: rest) => afterItems? after? steps rest
      | some (')' :: rest) => some rest
      | _ => none

/-- What follows a literal: a text, a number, a word or at most `depth` brackets in each other. -/
def afterLiteral? : (depth : Nat) → List Char → Option (List Char)
  | depth, cs =>
    match depth, cs with
    | depth + 1, '(' :: rest => afterItems? (afterLiteral? depth) (rest.length + 1) rest
    | _, '\u0027' :: rest => afterText? '\u0027' rest
    | _, '\u0022' :: rest => afterText? '\u0022' rest
    | _, '-' :: rest => afterNumber? rest
    | _, '+' :: rest => afterNumber? rest
    | _, cs => afterWord? cs <|> afterNumber? cs

def isLiterals (cs : List Char) : Bool :=
  afterItems? (afterLiteral? cs.length) (cs.length + 1) (cs ++ [')']) == some []

def isNameChar (c : Char) : Bool := Text.isAlphanumeric c || c == '_' || c == '.'

def isValid (parameters : List Char) : Bool :=
  let cs := Text.trim parameters
  let rest := cs.dropWhile isNameChar
  let inBrackets := rest.head? == some '(' && rest.getLast? == some ')'
  rest.isEmpty || isLiterals (if inBrackets then rest else cs)

end TwinDiagram.Markup.Action
