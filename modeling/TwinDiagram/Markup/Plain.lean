import TwinDiagram.Markup.Action
import TwinDiagram.Markup.Emoji
import TwinDiagram.Markup.Style
import TwinDiagram.Text.Control
import TwinDiagram.Text.Template

namespace TwinDiagram.Markup

def isTagStart (c : Char) : Bool := ('a' ≤ c && c ≤ 'z') || c == '#' || c == '/' || c == '@'

def readTag (cs : List Char) : Option (List Char × List Char) :=
  if !cs.head?.any isTagStart then none
  else
    let tag := cs.takeWhile fun c ↦ c != '[' && c != ']'
    match cs.dropWhile fun c ↦ c != '[' && c != ']' with
    | ']' :: rest => some (tag, rest)
    | _ => none

theorem length_lt_of_readTag {cs tag rest : List Char} (h : readTag cs = some (tag, rest)) :
    rest.length < cs.length := by
  unfold readTag at h
  have hle := (List.dropWhile_suffix (fun c : Char ↦ c != '[' && c != ']') (l := cs)).length_le
  split at h
  · simp at h
  · split at h
    · next heq =>
      simp only [Option.some.injEq, Prod.mk.injEq] at h
      rw [heq, List.length_cons, h.2] at hle
      omega
    · simp at h

inductive Piece where
  | text (cs : List Char)
  | tag (cs : List Char)
deriving DecidableEq, Repr

def Piece.escaped (slashes : Nat) (tag : List Char) : List Piece :=
  let kept := if slashes < 2 then [] else [text (List.replicate (slashes / 2) '\\')]
  kept ++ [if slashes % 2 = 0 then .tag tag else text ('[' :: tag ++ [']'])]

/-- The text and the tags in their order; `pending` is text read backwards. -/
def pieces (pending : List Char) (cs : List Char) : List Piece :=
  match cs with
  | [] => if pending.isEmpty then [] else [.text pending.reverse]
  | c :: rest =>
    let slashes := (c :: rest).takeWhile (· == '\\')
    match _h : (c :: rest).dropWhile (· == '\\') with
    | '[' :: inner =>
      match _ht : readTag inner with
      | some (tag, after) =>
        let before := if pending.isEmpty then [] else [.text pending.reverse]
        before ++ Piece.escaped slashes.length tag ++ pieces [] after
      | none => pieces (c :: pending) rest
    | _ => pieces (c :: pending) rest
termination_by cs.length
decreasing_by
  · have := length_lt_of_readTag _ht
    have hle := (List.dropWhile_suffix (fun c : Char ↦ c == '\\') (l := c :: rest)).length_le
    rw [_h, List.length_cons] at hle
    omega
  · simp
  · simp

inductive Fault where
  /-- A closing tag has no opening one. -/
  | unmatched
  /-- The parameters of an action are no literals. -/
  | action
  | style (f : StyleFault)
deriving DecidableEq, Repr

structure Opened where
  name : String
  parameters : List Char
deriving DecidableEq, Repr

def Opened.check (o : Opened) : Except Fault Unit :=
  if o.name.startsWith "@" && !o.parameters.isEmpty && !Action.isValid o.parameters then
    .error .action
  else .ok ()

structure Reading where
  opened : List Opened
  text : List Char
deriving DecidableEq, Repr

namespace Reading

def addText (r : Reading) (cs : List Char) : Reading :=
  { r with text := r.text ++ Emoji.replaceCodes (Text.replaceAll ['\\', '['] ['['] cs) }

def normalForm (name : List Char) : Except Fault String :=
  (Style.normalForm (.ofList name)).mapError .style

def close (r : Reading) (name : List Char) : Except Fault Reading := do
  let name := Text.trim name
  let isMeant : Opened → Bool ←
    if name.isEmpty then pure fun _ ↦ true
    else do
      let name ← normalForm name
      pure (·.name == name)
  match r.opened.find? isMeant with
  | none => throw .unmatched
  | some o => do
    o.check
    return { r with opened := r.opened.eraseP isMeant }

def addTag (r : Reading) (tag : List Char) : Except Fault Reading :=
  let parameters := (tag.dropWhile (· != '=')).tail
  match tag.takeWhile (· != '=') with
  | '/' :: name => r.close name
  | name => return { r with opened := ⟨← normalForm name, parameters⟩ :: r.opened }

def add (r : Reading) : Piece → Except Fault Reading
  | .text cs => .ok (r.addText cs)
  | .tag cs => r.addTag cs

end Reading

def plain (s : String) : Except Fault String := do
  let r ← (pieces [] s.toList).foldlM Reading.add ⟨[], []⟩
  return .ofList (r.text.filter (! Text.isMove ·))

end TwinDiagram.Markup
