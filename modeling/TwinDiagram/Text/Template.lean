namespace TwinDiagram.Text

/-- Puts `value` for each occurrence of `pattern`; the first `skip` characters are dropped. -/
def replaceAfter (pattern value : List Char) : (skip : Nat) → List Char → List Char
  | _, [] => []
  | skip + 1, _ :: rest => replaceAfter pattern value skip rest
  | 0, c :: rest =>
    if pattern.isPrefixOf (c :: rest) then
      value ++ replaceAfter pattern value (pattern.length - 1) rest
    else c :: replaceAfter pattern value 0 rest

def replaceAll (pattern value cs : List Char) : List Char := replaceAfter pattern value 0 cs

def substitute (name value template : String) : String :=
  .ofList (replaceAll ('\x7b' :: name.toList ++ ['\x7d']) value.toList template.toList)

end TwinDiagram.Text
