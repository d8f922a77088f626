import CellMachine.Table.Grid
import CellMachine.Text.Lines
import CellMachine.Text.Width

/-!
The typesetter of the program. A column is as wide as the widest line in it, a row as high as its
highest cell; a rule stands below the titles and another below the last row.
-/

namespace CellMachine

namespace Grid

structure Block where
  lines : List (List Char × Nat)
  alignment : Alignment

def Entry.measure (e : Entry) : Except String Block := do
  let lines ← (Text.lines e.text.toList).mapM fun s => (Text.width s).map (s, ·)
  return ⟨lines, e.alignment⟩

namespace Block

def width (b : Block) : Nat := (b.lines.map Prod.snd).foldl max 0

def height (b : Block) : Nat := b.lines.length

/-- One line of a cell, filled with blanks to the width of its column. -/
def line (b : Block) (width k : Nat) : List Char :=
  let (s, columns) := b.lines.getD k ([], 0)
  let fill := List.replicate (width - columns) ' '
  match b.alignment with
  | .left => s ++ fill
  | .right => fill ++ s

end Block

def widths (titles : List Block) (rows : List (List Block)) : List Nat :=
  rows.foldl (fun ws row => ws.zipWith max (row.map Block.width)) (titles.map Block.width)

/-- A line of a table: blanks at both ends, and `bar` between the columns. -/
def framed (bar : Char) (pieces : List (List Char)) : List Char :=
  ' ' :: Text.joinWith [bar] pieces ++ [' ']

/-- A row is at least one line high. -/
def rowHeight (row : List Block) : Nat := (row.map Block.height).foldl max 1

def rowLines (widths : List Nat) (row : List Block) : List (List Char) :=
  (List.range (rowHeight row)).map fun k =>
    framed '│' ((row.zip widths).map fun (b, w) => ' ' :: b.line w k ++ [' '])

/-- A rule across the table, with `crossing` where columns meet. -/
def rule (crossing : Char) (widths : List Nat) : List Char :=
  framed crossing (widths.map fun w => List.replicate (w + 2) '─')

def typeset : Typesetter := fun g => do
  let titles ← g.titles.mapM Entry.measure
  let rows ← g.rows.mapM fun row => row.mapM Entry.measure
  let ws := widths titles rows
  let lines := rowLines ws titles ++ [rule '┼' ws] ++ rows.flatMap (rowLines ws) ++ [rule '┴' ws]
  return String.ofList (Text.unlines lines)

end Grid

end CellMachine
