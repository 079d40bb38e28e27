import TwinDiagram.Token.Basic

namespace TwinDiagram.Token

/-- Here `previous` is the kind of the last token that stays. -/
def dropComments (previous : Option TokenKind) : List Token → List Token
  | [] => []
  | t :: rest =>
    if t.kind = .lineComment || (t.kind = .blockComment && previous != some .doc) then
      dropComments previous rest
    else t :: dropComments (some t.kind) rest

/-- The tokens of statements. -/
def statements (ts : List Token) : List Token := dropComments none ts

def lineComments (ts : List Token) : List Token := ts.filter (·.kind == .lineComment)

def commentOn (line : Int) (comments : List Token) : Option Token :=
  comments.reverse.find? (·.line == line)

def commentsByLine (comments : List Token) : List Token :=
  ((comments.map line).eraseDups.mergeSort (· ≤ ·)).filterMap (commentOn · comments)

end TwinDiagram.Token
