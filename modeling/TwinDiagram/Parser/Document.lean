import TwinDiagram.Parser.Statement
import TwinDiagram.Token.Lexer

namespace TwinDiagram.Parser

structure Declarations where
  systems : List System
  goals : List Goal
  allocations : List Allocation

namespace Declarations

def empty : Declarations := ⟨[], [], []⟩

def toSlice (d : Declarations) : Slice :=
  let present {α : Type} (xs : List α) : Option (List α) := if xs.isEmpty then none else some xs
  ⟨present d.systems, present d.goals, present d.allocations⟩

end Declarations

def declarationHandler : Handler Declarations
  | .system => some fun d ↦ return { d with systems := d.systems ++ [← system] }
  | .goal => some fun d ↦ return { d with goals := d.goals ++ [← goal] }
  | .allocate => some fun d ↦ return { d with allocations := d.allocations ++ [← allocation] }
  | _ => none

def section? (t : Transform) : TokenKind → Option (Option Slice × (Slice → Transform))
  | .before => some (t.before, fun s ↦ { t with before := some s })
  | .core => some (t.core, fun s ↦ { t with core := some s })
  | .after => some (t.after, fun s ↦ { t with after := some s })
  | _ => none

/-- Reads `#before { … }`, `#core { … }` or `#after { … }`. -/
def slice (kind : TokenKind) (earlier : Option Slice) : Parse (Option Slice) := do
  let keyword ← expect kind
  let found ← block kind.label declarationHandler .empty
  if earlier.isSome then
    report (.repeatedSection keyword kind)
    return none
  return some found.toSlice

def transformHandler : Handler Transform := fun kind ↦
  (section? .empty kind).map fun _ t ↦ do
    match section? t kind with
    | none => return t
    | some (earlier, set) =>
      match ← slice kind earlier with
      | none => return t
      | some s => return set s

/-- Reads `#dartrans { … }`; without a section there is nothing to tell. -/
def transform : Parse (Option Transform) := do
  let _ ← expect .transform
  let found ← block TokenKind.transform.label transformHandler .empty
  return if found.slices.isEmpty then none else some found

structure Outline where
  declarations : Declarations
  transform : Option (Option Transform)

def Outline.model (name : String) (o : Outline) : Model :=
  let d := o.declarations
  ⟨name, d.systems, d.goals, d.allocations, o.transform.join⟩

def rootTransform (o : Outline) : Parse Outline := do
  let keyword ← current
  let found ← transform
  if o.transform.isSome then
    report (.repeatedSection keyword .transform)
    return o
  return { o with transform := some found }

def rootHandler : Handler Outline
  | .transform => some rootTransform
  | kind => (declarationHandler kind).map fun read o ↦
    return { o with declarations := ← read o.declarations }

def headerFollows (s : State) : Bool :=
  let s := s.advance
  s.current.kind.isName && s.advance.current.kind == .openBrace

/-- The first complete header from here on; `steps` bounds the tokens looked at. -/
def seekFrom : (steps : Nat) → State → Option State
  | 0, _ => none
  | steps + 1, s =>
    if s.current.kind = .root && headerFollows s then some s else seekFrom steps (s.forward 1)

/-- Goes to the first complete header of a root, or to the first token if there is none. -/
def seekRoot : Parse Bool := do
  let s := (← get).rewind
  match seekFrom s.rest.length s with
  | some found => set found; return true
  | none => set s; return false

def document : Parse Model := do
  if !(← seekRoot) then
    report .missingRoot
    return .empty
  let _ ← expect .root
  let name ← expectName
  let found ← block s!"#dartwin {name}" rootHandler ⟨.empty, none⟩
  let m := found.model name
  modify fun s ↦ s.log (.parsed name m.systems.length m.goals.length m.allocations.length
    s.findings.length)
  return m

/-- The model of a text, and the parser when it is done. -/
def readText (text : String) : Except Mismatch Model × State :=
  document.run.run (.ofTokens (tokenize text))

end TwinDiagram.Parser
