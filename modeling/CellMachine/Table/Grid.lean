/-!
Tables of text, and what makes text of them.
-/

namespace CellMachine

inductive Alignment where
  | left
  | right
deriving DecidableEq, Repr

structure Grid.Entry where
  text : String
  alignment : Alignment := .left
deriving DecidableEq, Repr

/-- A table; every row has an entry for every title. -/
structure Grid where
  titles : List Grid.Entry
  rows : List (List Grid.Entry)
deriving DecidableEq, Repr

/-- Lays tables out as text. It may give up instead, with a message; a table is measured when it is
made, so that nothing of it has been printed by then. -/
abbrev Typesetter := Grid → Except String String

end CellMachine
