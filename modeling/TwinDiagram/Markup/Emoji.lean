import TwinDiagram.Markup.EmojiNames
import TwinDiagram.Text.Blank
import TwinDiagram.Text.Case
import TwinDiagram.Text.Hex

namespace TwinDiagram.Markup

structure Emoji where
  name : List Char
  characters : List Char
  takesTone : Bool

namespace Emoji

def characterOf (digits : List Char) : Char :=
  Char.ofNat (digits.foldl (fun n d ↦ n * 16 + (Text.hexValue d).getD 0) 0)

def ofEntry (entry : List Char) : Emoji :=
  let name := entry.takeWhile (· != ':')
  let codes := (entry.dropWhile (· != ':')).tail
  let digits := Text.splitBy (· == '+') (codes.takeWhile (· != '*'))
  ⟨name, digits.map characterOf, codes.getLast? == some '*'⟩

def all : List Emoji := names.flatMap fun line ↦ (Text.words line.toList).map ofEntry

def dropSuffix? (suffix cs : List Char) : Option (List Char) :=
  if suffix.isSuffixOf cs then some (cs.take (cs.length - suffix.length)) else none

def tones : List (String × Char) :=
  [("_light_skin_tone", Char.ofNat 0x1f3fb), ("_medium-light_skin_tone", Char.ofNat 0x1f3fc),
    ("_medium_skin_tone", Char.ofNat 0x1f3fd), ("_medium-dark_skin_tone", Char.ofNat 0x1f3fe),
    ("_dark_skin_tone", Char.ofNat 0x1f3ff)]

def pictureSelector : Char := '\ufe0f'

def textSelector : Char := '\ufe0e'

def withTone (tone : Char) : List Char → List Char
  | [] => []
  | c :: rest => c :: tone :: rest.dropWhile (· == pictureSelector)

def named? (name : List Char) : Option (List Char) :=
  (all.find? (·.name == name)).map characters

def toned? (name : List Char) : Option (List Char) :=
  tones.findSome? fun (suffix, tone) ↦ do
    let base ← dropSuffix? suffix.toList name
    let e ← all.find? fun e ↦ e.takesTone && e.name == base
    return withTone tone e.characters

def find? (name : List Char) : Option (List Char) := named? name <|> toned? name

def looks : List (String × Char) := [("-emoji", pictureSelector), ("-text", textSelector)]

def ofCode? (code : List Char) : Option (List Char) :=
  let look := looks.findSome? fun (suffix, selector) ↦
    (dropSuffix? suffix.toList code).map (·, selector)
  match look with
  | some (name, selector) => (find? (Text.lowerChars name)).map (· ++ [selector])
  | none => find? (Text.lowerChars code)

def isCodeChar (c : Char) : Bool := c != ':' && !Text.isBlank c

def replaceCodes : List Char → List Char
  | [] => []
  | c :: rest =>
    let code := rest.takeWhile isCodeChar
    match _h : rest.dropWhile isCodeChar with
    | ':' :: after =>
      if c = ':' then (ofCode? code).getD (':' :: code ++ [':']) ++ replaceCodes after
      else c :: replaceCodes rest
    | _ => c :: replaceCodes rest
termination_by cs => cs.length
decreasing_by
  · have : (rest.dropWhile isCodeChar).length ≤ rest.length := (List.dropWhile_suffix _).length_le
    rw [_h, List.length_cons] at this
    rw [List.length_cons]
    omega
  · simp
  · simp

end Emoji

end TwinDiagram.Markup
