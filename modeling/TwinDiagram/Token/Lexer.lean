import TwinDiagram.Text.Blank
import TwinDiagram.Token.Basic

namespace TwinDiagram

def isIdentifierStart (c : Char) : Bool := Text.isAlphanumeric c || c == '_'

def isIdentifierChar (c : Char) : Bool := isIdentifierStart c || c == '-'

def commentBody : List Char → List Char
  | [] => []
  | '*' :: '/' :: _ => []
  | c :: rest => c :: commentBody rest

def punctuation? (c : Char) : Option TokenKind :=
  if c = '\x7b' then some .openBrace
  else if c = '\x7d' then some .closeBrace
  else if c = ';' then some .semicolon
  else if c = '.' then some .dot
  else if c = ':' then some .colon
  else none

/-- A token without its place; `length` characters belong to it. -/
structure Lexeme where
  kind : TokenKind
  value : List Char
  length : Nat

namespace Lexeme

def lineComment (cs : List Char) : Lexeme :=
  let value := cs.takeWhile (· != '\n')
  ⟨.lineComment, value, value.length⟩

/-- Here `cs` is what follows the opening mark. The text may end before the closing mark. -/
def blockComment (cs : List Char) : Lexeme :=
  let value := commentBody cs
  ⟨.blockComment, value, 2 + value.length + 2⟩

def declaration (cs : List Char) : Lexeme :=
  let value := '#' :: cs.takeWhile isIdentifierChar
  ⟨(TokenKind.keyword? (.ofList value)).getD .unknown, value, value.length⟩

def word (cs : List Char) : Lexeme :=
  let value := cs.takeWhile isIdentifierChar
  ⟨(TokenKind.keyword? (.ofList value)).getD .identifier, value, value.length⟩

/-- The lexeme at the start of the text `c :: rest`; `c` is no blank. -/
def first (c : Char) (rest : List Char) : Lexeme :=
  if c = '/' && rest.head? = some '/' then lineComment (c :: rest)
  else if c = '/' && rest.head? = some '*' then blockComment rest.tail
  else if c = '#' then declaration rest
  else if isIdentifierStart c then word (c :: rest)
  else ⟨(punctuation? c).getD .unknown, [c], 1⟩

theorem first_length_pos (c : Char) (rest : List Char) : 0 < (first c rest).length := by
  unfold first
  split
  · next h => simp_all [lineComment]
  split
  · simp [blockComment]
  split
  · simp [declaration]
  split
  · next h => simp [word, isIdentifierChar, h]
  · simp

end Lexeme

structure Cursor where
  passed : List Char
  rest : List Char
  position : Position

namespace Cursor

def ofText (s : String) : Cursor := ⟨[], s.toList, .start⟩

def offset (c : Cursor) : Nat := c.passed.length

def current (c : Cursor) : Option Char := c.rest.head?

/-- The character `n` places ahead, or behind if `n` is negative. -/
def peek (c : Cursor) : (n : Int) → Option Char
  | .ofNat n => c.rest[n]?
  | .negSucc n => c.passed[n]?

/-- At the end of the text the cursor stays. -/
def advance (c : Cursor) : Cursor :=
  match c.rest with
  | [] => c
  | x :: rest => ⟨x :: c.passed, rest, c.position.after x⟩

def forward : (n : Nat) → Cursor → Cursor
  | 0, c => c
  | n + 1, c => forward n c.advance

theorem rest_advance (c : Cursor) : c.advance.rest = c.rest.tail := by
  unfold advance
  split <;> simp_all

theorem rest_forward (n : Nat) (c : Cursor) : (c.forward n).rest = c.rest.drop n := by
  induction n generalizing c with
  | zero => rfl
  | succ n ih => rw [forward, ih, rest_advance, List.drop_tail]

/-- The characters for which `p` holds, up to the first other one. -/
def take (p : Char → Bool) (c : Cursor) : List Char × Cursor :=
  let taken := c.rest.takeWhile p
  (taken, c.forward taken.length)

def skipBlanks (c : Cursor) : Cursor := (c.take Text.isBlank).2

def lineComment (c : Cursor) : List Char × Cursor := c.take (· != '\n')

def blockComment (c : Cursor) : List Char × Cursor :=
  let x := Lexeme.blockComment (c.rest.drop 2)
  (x.value, c.forward x.length)

def identifier (c : Cursor) : List Char × Cursor := c.take isIdentifierChar

/-- The tokens up to the end of the text, an end token last. -/
def tokens (c : Cursor) : List Token × Cursor :=
  match _h : c.skipBlanks.rest with
  | [] => ([.endAt c.skipBlanks.position], c.skipBlanks)
  | x :: rest =>
    let found := Lexeme.first x rest
    let later := tokens (c.skipBlanks.forward found.length)
    (⟨found.kind, .ofList found.value, c.skipBlanks.position⟩ :: later.1, later.2)
termination_by c.rest.length
decreasing_by
  have hpos := Lexeme.first_length_pos x rest
  have hle : c.skipBlanks.rest.length ≤ c.rest.length := by
    simp [skipBlanks, take, rest_forward]
  rw [rest_forward, List.length_drop]
  rw [_h, List.length_cons] at hle ⊢
  omega

end Cursor

def tokenize (s : String) : List Token := (Cursor.ofText s).tokens.1

end TwinDiagram
