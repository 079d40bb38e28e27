import TwinDiagram.Text.Hex
import TwinDiagram.Text.Printable

namespace TwinDiagram.Text

def quoteMark (cs : List Char) : Char :=
  if cs.contains '\u0027' && !cs.contains '\u0022' then '\u0022' else '\u0027'

def escapeChar (mark c : Char) : List Char :=
  if c = mark || c = '\\' then ['\\', c]
  else if c = '\n' then ['\\', 'n']
  else if c = '\r' then ['\\', 'r']
  else if c = '\t' then ['\\', 't']
  else if isPrintable c then [c]
  else if c.toNat < 0x100 then '\\' :: 'x' :: hex 2 c.toNat
  else if c.toNat < 0x10000 then '\\' :: 'u' :: hex 4 c.toNat
  else '\\' :: 'U' :: hex 8 c.toNat

def quotedChars (cs : List Char) : List Char :=
  let mark := quoteMark cs
  mark :: cs.flatMap (escapeChar mark) ++ [mark]

def quoted (s : String) : String := .ofList (quotedChars s.toList)

end TwinDiagram.Text
