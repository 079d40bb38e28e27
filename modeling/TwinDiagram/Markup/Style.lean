import TwinDiagram.Markup.Color
import TwinDiagram.Text.Case

namespace TwinDiagram.Markup

structure Style where
  /-- Attributes that are turned on or off, the latest first. -/
  attributes : List (String × Bool)
  color : Option String
  background : Option String
  link : Option String
deriving DecidableEq, Repr

namespace Style

def empty : Style := ⟨[], none, none, none⟩

def attributeNames : List (String × Option String) :=
  [("bold", some "b"), ("dim", some "d"), ("italic", some "i"), ("underline", some "u"),
    ("blink", none), ("blink2", none), ("reverse", some "r"), ("conceal", some "c"),
    ("strike", some "s"), ("underline2", some "uu"), ("frame", none), ("encircle", none),
    ("overline", some "o")]

def attribute? (word : String) : Option String :=
  (attributeNames.find? fun a ↦ a.1 == word || a.2 == some word).map Prod.fst

def set (s : Style) (name : String) (on : Bool) : Style :=
  { s with attributes := (name, on) :: s.attributes }

/-- Reads words: attributes, colours, and what `on`, `not` and `link` introduce. -/
def readWords (s : Style) : List String → Except StyleFault Style
  | [] => .ok s
  | w :: rest =>
    let word := Text.lower w
    if word = "on" then
      match rest with
      | [] => .error .unknown
      | background :: rest => do
        let background := Text.lower background
        Color.check background.toList
        readWords { s with background := some background } rest
    else if word = "not" then
      match rest with
      | [] => .error .unknown
      | a :: rest =>
        match attribute? a with
        | some a => readWords (s.set a false) rest
        | none => .error .unknown
    else if word = "link" then
      match rest with
      | [] => .error .unknown
      | target :: rest => readWords { s with link := some target } rest
    else
      match attribute? word with
      | some a => readWords (s.set a true) rest
      | none => do
        Color.check word.toList
        readWords { s with color := some word } rest

def words (s : Style) : List String :=
  let attributes := attributeNames.filterMap fun (a, _) ↦
    (s.attributes.lookup a).map fun on ↦ if on then a else s!"not {a}"
  let introduced (word : String) (value : Option String) := (value.map fun v ↦ [word, v]).getD []
  attributes ++ s.color.toList ++ introduced "on" s.background ++ introduced "link" s.link

def plainName : String := "none"

def text (s : Style) : String := if s.words.isEmpty then plainName else " ".intercalate s.words

def normalForm (definition : String) : Except StyleFault String :=
  let trimmed := String.ofList (Text.trim definition.toList)
  if trimmed = plainName then .ok plainName
  else match readWords .empty ((Text.words definition.toList).map String.ofList) with
    | .ok s => .ok s.text
    | .error .unknown => .ok (Text.lower trimmed)
    | .error .notNumber => .error .notNumber

end Style

end TwinDiagram.Markup
