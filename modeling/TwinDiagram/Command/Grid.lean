import TwinDiagram.Markup.Plain
import TwinDiagram.Text.Wrap

namespace TwinDiagram.Command

structure Column where
  title : String
  alignRight : Bool
deriving DecidableEq, Repr

structure Grid where
  title : String
  columns : List Column
  rows : List (List String)
deriving DecidableEq, Repr

namespace Grid

def lineWidth : Nat := 80

def texts (g : Grid) (i : Nat) : List (List Char) :=
  ((g.columns.map Column.title)[i]?.getD "").toList ::
    g.rows.map fun row ↦ (row[i]?.getD "").toList

def naturalWidth (g : Grid) (i : Nat) : Nat := ((g.texts i).map Text.width).foldl max 0

def widths (g : Grid) : List Nat :=
  let all := (List.range g.columns.length).map g.naturalWidth
  let fixed := all.dropLast
  let taken := (fixed.map (· + 2)).foldl (· + ·) 0 + g.columns.length + 1
  fixed ++ [min (all.getLast?.getD 0) (lineWidth - taken - 2)]

def totalWidth (g : Grid) : Nat := (g.widths.map (· + 2)).foldl (· + ·) 0 + g.columns.length + 1

def cell (alignRight : Bool) (width : Nat) (text : String) : List (List Char) :=
  (Text.wrap false width text.toList).map fun line ↦
    let line := Text.dropExcess width line
    if alignRight then Text.padLeft width (Text.ellipsize width (Text.trimEnd line))
    else Text.padRight width (Text.ellipsize width line)

def rowLine (edge between : Char) (parts : List (List Char)) : String :=
  .ofList (edge :: ' ' :: Text.joinWith [' ', between, ' '] parts ++ [' ', edge])

def row (g : Grid) (edge between : Char) (texts : List String) : List String :=
  let cells := (g.columns.zip (g.widths.zip texts)).map fun c ↦
    (c.2.1, cell c.1.alignRight c.2.1 c.2.2)
  let height := (cells.map (·.2.length)).foldl max 0
  (List.range height).map fun i ↦
    rowLine edge between (cells.map fun c ↦ c.2[i]?.getD (Text.blanks c.1))

def rule (g : Grid) (left line between right : Char) : String :=
  let parts := g.widths.map fun w ↦ List.replicate (w + 2) line
  .ofList (left :: Text.joinWith [between] parts ++ [right])

def titleLines (g : Grid) : List String :=
  let width := g.totalWidth
  let lines := Text.splitBy (· == '\n') g.title.toList
  (lines.flatMap fun line ↦ Text.wrap true width (Text.expandTabs 0 line)).map fun line ↦
    .ofList (Text.padBoth width (Text.crop width (Text.trimEnd line)))

def plain (g : Grid) : Except Markup.Fault Grid := do
  let rows ← g.rows.mapM (·.mapM Markup.plain)
  return { g with title := ← Markup.plain g.title, rows }

def lines (g : Grid) : List String :=
  g.titleLines ++ [g.rule '┏' '━' '┳' '┓'] ++ g.row '┃' '┃' (g.columns.map Column.title) ++
    [g.rule '┡' '━' '╇' '┩'] ++ g.rows.flatMap (g.row '│' '│') ++ [g.rule '└' '─' '┴' '┘']

end Grid

end TwinDiagram.Command
