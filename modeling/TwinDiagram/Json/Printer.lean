import TwinDiagram.Decimal.Style
import TwinDiagram.Json.Basic
import TwinDiagram.Text.Hex

namespace TwinDiagram.Json

/-- Numbers are written in full from `0.0001` up to `10 ^ 16`, and keep a decimal. -/
def decimals : Decimal.Style := ⟨-4, 16, 2, "NaN", "Infinity"⟩

structure Spacing where
  comma : List Char
  colon : List Char
  /-- Blanks per level, each item on a line of its own; absent for a single line. -/
  indent : Option Nat

def Spacing.line : Spacing := ⟨[',', ' '], [':', ' '], none⟩

def Spacing.compact : Spacing := ⟨[','], [':'], none⟩

def Spacing.indented (n : Nat) : Spacing := ⟨[','], [':', ' '], some n⟩

def Spacing.newline (s : Spacing) (level : Nat) : List Char :=
  match s.indent with
  | none => []
  | some n => '\n' :: List.replicate (n * level) ' '

def unicodeEscape (n : Nat) : List Char := '\\' :: 'u' :: Text.hex 4 n

def escapeChar (c : Char) : List Char :=
  if c = '\u0022' then ['\\', '\u0022']
  else if c = '\\' then ['\\', '\\']
  else if c = '\n' then ['\\', 'n']
  else if c = '\r' then ['\\', 'r']
  else if c = '\t' then ['\\', 't']
  else if c = '\u0008' then ['\\', 'b']
  else if c = '\u000c' then ['\\', 'f']
  else if 0x20 ≤ c.toNat && c.toNat < 0x7f then [c]
  else if c.toNat < 0x10000 then unicodeEscape c.toNat
  else
    let n := c.toNat - 0x10000
    unicodeEscape (0xd800 + n / 0x400) ++ unicodeEscape (0xdc00 + n % 0x400)

def printText (s : String) : List Char :=
  '\u0022' :: s.toList.flatMap escapeChar ++ ['\u0022']

mutual

def print (s : Spacing) (level : Nat) : Json → List Char
  | null => ['n', 'u', 'l', 'l']
  | bool true => ['t', 'r', 'u', 'e']
  | bool false => ['f', 'a', 'l', 's', 'e']
  | int n => (toString n).toList
  | decimal x => (Decimal.write decimals x).toList
  | text t => printText t
  | list [] => ['[', ']']
  | list (j :: rest) =>
    '[' :: s.newline (level + 1) ++ print s (level + 1) j ++ printItems s (level + 1) rest ++
      s.newline level ++ [']']
  | object [] => ['\x7b', '\x7d']
  | object ((k, j) :: rest) =>
    '\x7b' :: s.newline (level + 1) ++ printText k ++ s.colon ++ print s (level + 1) j ++
      printFields s (level + 1) rest ++ s.newline level ++ ['\x7d']

def printItems (s : Spacing) (level : Nat) : List Json → List Char
  | [] => []
  | j :: rest => s.comma ++ s.newline level ++ print s level j ++ printItems s level rest

def printFields (s : Spacing) (level : Nat) : List (String × Json) → List Char
  | [] => []
  | (k, j) :: rest =>
    s.comma ++ s.newline level ++ printText k ++ s.colon ++ print s level j ++
      printFields s level rest

end

def render (s : Spacing) (j : Json) : String := .ofList (print s 0 j)

end TwinDiagram.Json
