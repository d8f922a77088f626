/-!
Cutting a text: at a separator, which yields one piece more than there are separators, and into
lines, where a line feed ends a line and takes one carriage return before it along.
-/

namespace CellMachine.Text

/-- The pieces between the separators, in order. -/
def splitOn (sep : Char) : List Char → List (List Char)
  | [] => [[]]
  | c :: s =>
    if c = sep then [] :: splitOn sep s
    else
      match splitOn sep s with
      | [] => [[c]]
      | piece :: rest => (c :: piece) :: rest

theorem splitOn_ne_nil (sep : Char) (s : List Char) : splitOn sep s ≠ [] := by
  cases s with
  | nil => simp [splitOn]
  | cons c s =>
    by_cases h : c = sep
    · simp [splitOn, h]
    · simp only [splitOn, h, if_false]; split <;> simp

def dropReturn (s : List Char) : List Char :=
  if s.getLast? = some '\r' then s.dropLast else s

/-- The lines among the pieces between line feeds: what follows the last line feed is a line only
if it is not empty, and keeps its carriage return. -/
def closeLines : List (List Char) → List (List Char)
  | [] => []
  | [last] => if last.isEmpty then [] else [last]
  | piece :: rest => dropReturn piece :: closeLines rest

def lines (s : List Char) : List (List Char) := closeLines (splitOn '\n' s)

/-- The part of a line before the first character `mark`. -/
def before (mark : Char) (s : List Char) : List Char := s.takeWhile (· != mark)

@[simp] theorem lines_nil : lines [] = [] := rfl

def joinWith (sep : List Char) : List (List Char) → List Char
  | [] => []
  | [piece] => piece
  | piece :: rest => piece ++ sep ++ joinWith sep rest

def unlines (ls : List (List Char)) : List Char := ls.flatMap (· ++ ['\n'])

@[simp] theorem unlines_nil : unlines [] = [] := rfl
@[simp] theorem unlines_cons (l : List Char) (ls : List (List Char)) :
    unlines (l :: ls) = l ++ '\n' :: unlines ls := by simp [unlines]

end CellMachine.Text
