import TwinDiagram.Text.Alphanumeric
import TwinDiagram.Text.Case
import TwinDiagram.Text.Quoted

namespace TwinDiagram

/-- A place in a text; lines and columns count from one. Tokens from elsewhere may be placed
anywhere. -/
structure Position where
  line : Int
  column : Int
deriving DecidableEq, Repr, Inhabited

namespace Position

def start : Position := ⟨1, 1⟩

/-- The place behind `c`; only a line feed ends a line. -/
def after (p : Position) (c : Char) : Position :=
  if c = '\n' then ⟨p.line + 1, 1⟩ else ⟨p.line, p.column + 1⟩

end Position

inductive TokenKind where
  | identifier
  | root
  | system
  | twin
  | goal
  | transform
  | before
  | core
  | after
  | part
  | port
  | connect
  | towards
  | name
  | doc
  | allocate
  | openBrace
  | closeBrace
  | semicolon
  | dot
  | colon
  | lineComment
  | blockComment
  | unknown
  | endOfInput
deriving DecidableEq, Repr, Inhabited

namespace TokenKind

/-- The spelling in messages. -/
def label : TokenKind → String
  | identifier => "IDENTIFIER"
  | root => "#dartwin"
  | system => "#twinsystem"
  | twin => "#digitaltwin"
  | goal => "#goal"
  | transform => "#dartrans"
  | before => "#before"
  | core => "#core"
  | after => "#after"
  | part => "part"
  | port => "port"
  | connect => "connect"
  | towards => "to"
  | name => "name"
  | doc => "doc"
  | allocate => "allocate"
  | openBrace => "\x7b"
  | closeBrace => "\x7d"
  | semicolon => ";"
  | dot => "."
  | colon => ":"
  | lineComment => "LINE_COMMENT"
  | blockComment => "BLOCK_COMMENT"
  | unknown => "UNKNOWN"
  | endOfInput => "EOF"

def declarations : List TokenKind :=
  [root, system, twin, goal, transform, before, core, after]

def softKeywords : List TokenKind := [part, port, connect, towards, name, doc, allocate]

def keywords : List TokenKind := declarations ++ softKeywords

def keyword? (word : String) : Option TokenKind :=
  let word := Text.lower word
  keywords.find? (·.label == word)

def isName (k : TokenKind) : Bool := k == identifier || softKeywords.contains k

def startsStatement (k : TokenKind) : Bool :=
  declarations.contains k || k == part || k == port || k == connect || k == allocate

/-- A closing brace and the end of input close a block. -/
def closesBlock (k : TokenKind) : Bool := k == closeBrace || k == endOfInput

end TokenKind

/-- The `value` is the text as written; of a block comment it is the text between its marks. -/
structure Token where
  kind : TokenKind
  value : String
  position : Position
deriving DecidableEq, Repr, Inhabited

namespace Token

def line (t : Token) : Int := t.position.line

def column (t : Token) : Int := t.position.column

def endAt (p : Position) : Token := ⟨.endOfInput, "", p⟩

def describe (t : Token) : String :=
  s!"Token({t.kind.label}, {Text.quoted t.value}, {t.line}:{t.column})"

end Token

end TwinDiagram
