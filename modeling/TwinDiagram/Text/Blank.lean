namespace TwinDiagram.Text

def isWhiteSpace (c : Char) : Bool :=
  let n := c.toNat
  (0x09 ≤ n && n ≤ 0x0d) || n == 0x20 || n == 0x85 || n == 0xa0 || n == 0x1680 ||
    (0x2000 ≤ n && n ≤ 0x200a) || n == 0x2028 || n == 0x2029 || n == 0x202f || n == 0x205f ||
    n == 0x3000

def isBlank (c : Char) : Bool := isWhiteSpace c || (0x1c ≤ c.toNat && c.toNat ≤ 0x1f)

def strip (p : Char → Bool) (cs : List Char) : List Char :=
  ((cs.dropWhile p).reverse.dropWhile p).reverse

def trim (cs : List Char) : List Char := strip isBlank cs

/-- The pieces between characters for which `p` holds; two of them side by side have an empty piece
between them. -/
def splitBy (p : Char → Bool) : List Char → List (List Char)
  | [] => [[]]
  | c :: rest =>
    if p c then [] :: splitBy p rest
    else match splitBy p rest with
      | [] => [[c]]
      | w :: ws => (c :: w) :: ws

def pieces (cs : List Char) : List (List Char) := splitBy isBlank cs

def words (cs : List Char) : List (List Char) := (pieces cs).filter (! ·.isEmpty)

def joinWith (separator : List Char) : List (List Char) → List Char
  | [] => []
  | [w] => w
  | w :: v :: ws => w ++ separator ++ joinWith separator (v :: ws)

def replaceBlanks (mark : Char) : List Char → List Char
  | [] => []
  | [c] => [if isBlank c then mark else c]
  | c :: d :: rest =>
    if isBlank c then
      if isBlank d then replaceBlanks mark (d :: rest) else mark :: replaceBlanks mark (d :: rest)
    else c :: replaceBlanks mark (d :: rest)

def unifyNewlines : List Char → List Char
  | [] => []
  | '\r' :: '\n' :: rest => '\n' :: unifyNewlines rest
  | '\r' :: rest => '\n' :: unifyNewlines rest
  | c :: rest => c :: unifyNewlines rest

end TwinDiagram.Text
