import TwinDiagram.Block
import TwinDiagram.Diagnostic.Basic
import TwinDiagram.Token.Comments

namespace TwinDiagram.Parser

inductive Wanted where
  | kind (k : TokenKind)
  | name
deriving DecidableEq, Repr

/-- A statement asks for one thing and finds another. -/
structure Mismatch where
  wanted : Wanted
  found : Token
deriving DecidableEq, Repr

def Mismatch.message (m : Mismatch) : String :=
  let wanted := match m.wanted with
    | .kind k => s!"'{k.label}'"
    | .name => "a name"
  let found :=
    if m.found.kind = .endOfInput then "end of input" else Text.quoted m.found.value
  s!"Expected {wanted}, got {found}"

inductive Finding where
  | missingRoot
  | mismatch (m : Mismatch)
  /-- A block to be skipped has no end. -/
  | unclosed (opened : Token)
  | neverClosed (owner : String) (opened : Token)
  | repeatedSection (keyword : Token) (kind : TokenKind)
deriving DecidableEq, Repr

def Finding.diagnostic : Finding → Diagnostic
  | missingRoot =>
    ⟨.info, .missingRoot, "No '#dartwin <name> \x7b' declaration found", none, none, none⟩
  | mismatch m => ⟨.warning, .malformed, m.message, none, some m.found.line, some m.found.column⟩
  | unclosed t =>
    ⟨.warning, .unterminatedBlock, "Unclosed '\x7b' skipped to end of input", none, some t.line,
      some t.column⟩
  | neverClosed owner t =>
    ⟨.warning, .unterminatedBlock, s!"Block of {owner} is never closed", some owner, some t.line,
      some t.column⟩
  | repeatedSection t k =>
    ⟨.warning, .duplicateSection, s!"Repeated {k.label} section ignored", some k.label,
      some t.line, some t.column⟩

inductive Event where
  | found (f : Finding)
  | skipped (t : Token)
  | parsed (name : String) (systems goals allocations findings : Nat)
deriving DecidableEq, Repr

def Event.finding? : Event → Option Finding
  | found f => some f
  | _ => none

/-- The tokens passed, latest first, those to come, and the end token behind them. `events` has the
latest event first. -/
structure State where
  passed : List Token
  rest : List Token
  last : Token
  comments : List Token
  events : List Event
  last_kind : last.kind = .endOfInput
deriving DecidableEq, Repr

namespace State

/-- An end token is supplied where the tokens have none. -/
def ofTokens (ts : List Token) : State :=
  let stream := Token.statements ts
  let comments := Token.lineComments ts
  match stream.getLast? with
  | none => ⟨[], [], .endAt .start, comments, [], rfl⟩
  | some t =>
    if h : t.kind = .endOfInput then ⟨[], stream.dropLast, t, comments, [], h⟩
    else ⟨[], stream, .endAt ⟨t.line, 1⟩, comments, [], rfl⟩

def position (s : State) : Nat := s.passed.length

def current (s : State) : Token := s.rest.headD s.last

/-- The token `n` places ahead. Back from the first token the count goes on with the last; it goes
through the tokens once. -/
def peek (s : State) : (n : Int) → Option Token
  | .ofNat n => some (s.rest[n]?.getD s.last)
  | .negSucc n => (s.passed ++ s.last :: s.rest.reverse ++ s.passed)[n]?

def forward (n : Nat) (s : State) : State :=
  { s with passed := (s.rest.take n).reverse ++ s.passed, rest := s.rest.drop n }

/-- An end token is never passed. -/
def advance (s : State) : State :=
  if s.current.kind = .endOfInput then s else s.forward 1

def rewind (s : State) : State := { s with passed := [], rest := s.passed.reverse ++ s.rest }

def findings (s : State) : List Finding := s.events.reverse.filterMap Event.finding?

def diagnostics (s : State) : List Diagnostic := s.findings.map Finding.diagnostic

def log (e : Event) (s : State) : State := { s with events := e :: s.events }

def report (f : Finding) (s : State) : State := s.log (.found f)

/-- Passes a whole block, or all that is left if the block has no end. -/
def skipBlock (s : State) : State :=
  match Block.closing? (·.kind == .openBrace) (·.kind == .closeBrace) 0 s.rest with
  | some n => s.forward (n + 1)
  | none => (s.report (.unclosed s.current)).forward s.rest.length

/-- Passes one token that means nothing here, or the whole block that it opens. -/
def skipUnknown (s : State) : State :=
  if s.current.kind = .openBrace then s.skipBlock
  else (s.log (.skipped s.current)).advance

def stopsRecovery (k : TokenKind) : Bool :=
  k.closesBlock || k == .semicolon || k == .openBrace || k.startsStatement

/-- Goes on behind the next semicolon or block, or in front of the next statement or the end of the
enclosing block. A statement that failed on its first token is left in any case. -/
def recover (start : Nat) (s : State) : State :=
  let s := if s.position = start && !s.current.kind.closesBlock then s.advance else s
  let s := s.forward (s.rest.takeWhile (! stopsRecovery ·.kind)).length
  if s.current.kind = .semicolon then s.advance
  else if s.current.kind = .openBrace then s.skipBlock
  else s

theorem current_of_rest {s : State} {x : Token} {xs : List Token} (h : s.rest = x :: xs) :
    s.current = x := by
  simp [current, h]

theorem current_of_nil {s : State} (h : s.rest = []) : s.current = s.last := by
  simp [current, h]

theorem rest_eq_cons {s : State} (h : s.current.kind ≠ .endOfInput) :
    ∃ xs, s.rest = s.current :: xs := by
  cases hr : s.rest with
  | nil => exact absurd (current_of_nil hr ▸ s.last_kind) h
  | cons x xs => exact ⟨xs, by rw [current_of_rest hr]⟩

theorem rest_forward (n : Nat) (s : State) : (s.forward n).rest = s.rest.drop n := rfl

theorem rest_skipBlock_le (s : State) : s.skipBlock.rest.length ≤ s.rest.length - 1 := by
  unfold skipBlock
  split
  · simp only [rest_forward, List.length_drop]
    omega
  · simp [rest_forward, report, log]

end State

end TwinDiagram.Parser
