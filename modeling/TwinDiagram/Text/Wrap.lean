import TwinDiagram.Text.Blank
import TwinDiagram.Text.Width

namespace TwinDiagram.Text

def trimEnd (cs : List Char) : List Char := (cs.reverse.dropWhile isBlank).reverse

/-- Words with the blanks behind them; the first one also has those in front. Each step takes a
word. -/
def spacedWords : (steps : Nat) → List Char → List (List Char)
  | 0, _ => []
  | steps + 1, cs =>
    let lead := cs.takeWhile isBlank
    let rest := cs.dropWhile isBlank
    let body := rest.takeWhile (! isBlank ·)
    if body.isEmpty then []
    else
      let rest := rest.dropWhile (! isBlank ·)
      (lead ++ body ++ rest.takeWhile isBlank) :: spacedWords steps (rest.dropWhile isBlank)

/-- Pieces of at most so many columns; `line` is read backwards and takes `used` of them. -/
def chop (columns : Nat) (line : List Char) (used : Nat) : List Char → List (List Char)
  | [] => [line.reverse]
  | c :: rest =>
    if columns < used + charWidth c then line.reverse :: chop columns [c] (charWidth c) rest
    else chop columns (c :: line) (used + charWidth c) rest

/-- Fills lines with words; `line` is under way. A word that is too long for any line is chopped if
`fold`, or has a line of its own. -/
def fill (fold : Bool) (columns : Nat) (line : List Char) : List (List Char) → List (List Char)
  | [] => [line]
  | w :: rest =>
    let length := width (trimEnd w)
    if length + width line ≤ columns then fill fold columns (line ++ w) rest
    else
      let full := if line.isEmpty then [] else [line]
      if columns < length && fold then
        let pieces := chop columns [] 0 w
        full ++ pieces.dropLast ++ fill fold columns (pieces.getLast?.getD []) rest
      else full ++ fill fold columns w rest

def wrap (fold : Bool) (columns : Nat) (cs : List Char) : List (List Char) :=
  match spacedWords cs.length cs with
  | [] => [cs]
  | words => fill fold columns [] words

/-- Searches for a beginning of so many columns. It ends behind the character at `first` or further
on, and not behind `last`; each step halves what is between them. Of a wide character that does not
fit a blank is left. -/
def cutBetween (columns : Nat) (cs : List Char) : (steps first last : Nat) → List Char
  | 0, _, _ => []
  | steps + 1, first, last =>
    let middle := (first + last) / 2
    let start := cs.take (middle + 1)
    let taken := width start
    if taken = columns + 1 && start.getLast?.any (charWidth · == 2) then start.dropLast ++ [' ']
    else if taken = columns then start
    else if columns < taken then cutBetween columns cs steps first middle
    else cutBetween columns cs steps middle last

def cut (columns : Nat) (cs : List Char) : List Char :=
  if columns = 0 then [] else cutBetween columns cs cs.length 0 cs.length

def crop (columns : Nat) (cs : List Char) : List Char :=
  if columns < width cs then cut columns cs else cs

def tabWidth : Nat := 8

/-- Blanks up to the next stop for each tabulator; `column` is where the text starts. -/
def expandTabs (column : Nat) : List Char → List Char
  | [] => []
  | c :: rest =>
    if c = '\t' then
      let skipped := tabWidth - column % tabWidth
      List.replicate skipped ' ' ++ expandTabs (column + skipped) rest
    else c :: expandTabs (column + charWidth c) rest

def blanks (n : Nat) : List Char := List.replicate n ' '

def dropExcess (columns : Nat) (cs : List Char) : List Char :=
  let spare := cs.length - (trimEnd cs).length
  cs.take (cs.length - min spare (cs.length - columns))

def ellipsize (columns : Nat) (cs : List Char) : List Char :=
  if columns < width cs then cut (columns - 1) cs ++ ['…'] else cs

def padRight (columns : Nat) (cs : List Char) : List Char := cs ++ blanks (columns - width cs)

def padLeft (columns : Nat) (cs : List Char) : List Char := blanks (columns - width cs) ++ cs

def padBoth (columns : Nat) (cs : List Char) : List Char :=
  padRight columns (blanks ((columns - width cs) / 2) ++ cs)

end TwinDiagram.Text
