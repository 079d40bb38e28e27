import TwinDiagram.Parser.State

namespace TwinDiagram.Parser

/-- A failure keeps the place and the findings. -/
abbrev Parse := ExceptT Mismatch (StateM State)

def current : Parse Token := return (← get).current

def advance : Parse Token := do
  let t ← current
  modify State.advance
  return t

def isAt (k : TokenKind) : Parse Bool := return (← current).kind == k

def accept (k : TokenKind) : Parse (Option Token) := do
  if ← isAt k then return some (← advance) else return none

def expect (k : TokenKind) : Parse Token := do
  let t ← current
  if t.kind = k then advance else throw ⟨.kind k, t⟩

def expectName : Parse String := do
  let t ← current
  if t.kind.isName then return (← advance).value else throw ⟨.name, t⟩

def report (f : Finding) : Parse Unit := modify (·.report f)

def closeBlock (owner : String) (opened : Token) : Parse Unit := do
  if (← accept .closeBrace).isNone then report (.neverClosed owner opened)

abbrev Handler (α : Type) := TokenKind → Option (α → Parse α)

variable {α : Type}

def statement (handle : Handler α) (found : α) (s : State) : α × State :=
  match handle s.current.kind with
  | none => (found, s.skipUnknown)
  | some read =>
    match (read found).run.run s with
    | (.ok found, s') => (found, s')
    | (.error m, s') => (found, (s'.report (.mismatch m)).recover s.position)

/-- Reads statements up to the end of the block. Every statement takes at least one token. -/
def runStatements (handle : Handler α) (found : α) (s : State) : α × State :=
  if s.current.kind.closesBlock then (found, s)
  else
    let next := statement handle found s
    if next.2.rest.length < s.rest.length then runStatements handle next.1 next.2 else next
termination_by s.rest.length

def statements (handle : Handler α) (found : α) : Parse α :=
  ExceptT.mk fun s ↦ ((runStatements handle found s).map .ok id)

/-- Reads `{ … }`, statement by statement; `owner` is named if the block stays open. -/
def block (owner : String) (handle : Handler α) (found : α) : Parse α := do
  let opened ← expect .openBrace
  let found ← statements handle found
  closeBlock owner opened
  return found

end TwinDiagram.Parser
