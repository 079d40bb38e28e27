import TwinDiagram.Text.Blank

namespace TwinDiagram.Text

inductive Utf8Reason where
  | invalidStart
  | invalidContinuation
  | unexpectedEnd
deriving DecidableEq, Repr

def Utf8Reason.message : Utf8Reason → String
  | .invalidStart => "invalid start byte"
  | .invalidContinuation => "invalid continuation byte"
  | .unexpectedEnd => "unexpected end of data"

/-- The `offset` is that of the first byte of the character that cannot be read. -/
structure Utf8Fault where
  offset : Nat
  reason : Utf8Reason
deriving DecidableEq, Repr

/-- A character under way: `need` more bytes, the next one between `low` and `high`. -/
structure PendingChar where
  start : Nat
  need : Nat
  low : Nat
  high : Nat
  value : Nat
deriving DecidableEq, Repr

/-- What a first byte above ASCII announces. Overlong forms, surrogates and values beyond the last
character are excluded by the bounds on the second byte. -/
def leadByte (start b : Nat) : Option PendingChar :=
  if b < 0xc2 then none
  else if b < 0xe0 then some ⟨start, 1, 0x80, 0xbf, b - 0xc0⟩
  else if b = 0xe0 then some ⟨start, 2, 0xa0, 0xbf, 0⟩
  else if b = 0xed then some ⟨start, 2, 0x80, 0x9f, 0xd⟩
  else if b < 0xf0 then some ⟨start, 2, 0x80, 0xbf, b - 0xe0⟩
  else if b = 0xf0 then some ⟨start, 3, 0x90, 0xbf, 0⟩
  else if b < 0xf4 then some ⟨start, 3, 0x80, 0xbf, b - 0xf0⟩
  else if b = 0xf4 then some ⟨start, 3, 0x80, 0x8f, 4⟩
  else none

def decodeFrom (offset : Nat) (pending : Option PendingChar) :
    List UInt8 → Except Utf8Fault (List Char)
  | [] =>
    match pending with
    | none => .ok []
    | some p => .error ⟨p.start, .unexpectedEnd⟩
  | b :: rest =>
    match pending with
    | none =>
      if b.toNat < 0x80 then do
        return Char.ofNat b.toNat :: (← decodeFrom (offset + 1) none rest)
      else match leadByte offset b.toNat with
        | none => .error ⟨offset, .invalidStart⟩
        | some p => decodeFrom (offset + 1) (some p) rest
    | some p =>
      if p.low ≤ b.toNat && b.toNat ≤ p.high then
        let value := p.value * 64 + (b.toNat - 0x80)
        if p.need ≤ 1 then do
          return Char.ofNat value :: (← decodeFrom (offset + 1) none rest)
        else
          decodeFrom (offset + 1) (some ⟨p.start, p.need - 1, 0x80, 0xbf, value⟩) rest
      else .error ⟨p.start, .invalidContinuation⟩

def decodeUtf8 (bytes : ByteArray) : Except Utf8Fault (List Char) :=
  decodeFrom 0 none bytes.toList

def readBytes (bytes : ByteArray) : Except Utf8Fault String :=
  (decodeUtf8 bytes).map fun cs ↦ .ofList (unifyNewlines cs)

end TwinDiagram.Text
