/-!
Three notions of blank character, and trimming by any of them. Names and arguments of a statement
are parted by *inline* blanks, a number in a cell is surrounded by *cell* blanks, and a line is
judged empty by the Unicode property `White_Space`.
-/

namespace CellMachine.Text

def isInlineBlank (c : Char) : Bool := c == ' ' || c == '\t'

def isCellBlank (c : Char) : Bool := c == ' ' || c == '\t' || c == '\r' || c == '\n'

/-- The Unicode property `White_Space`. -/
def isWhite (c : Char) : Bool :=
  let n := c.toNat
  (9 ≤ n && n ≤ 13) || n == 0x20 || n == 0x85 || n == 0xA0 || n == 0x1680 ||
    (0x2000 ≤ n && n ≤ 0x200A) || n == 0x2028 || n == 0x2029 || n == 0x202F || n == 0x205F ||
    n == 0x3000

variable (p : Char → Bool)

def trimLeft (s : List Char) : List Char := s.dropWhile p

def trimRight (s : List Char) : List Char := (s.reverse.dropWhile p).reverse

/-- The text without the characters of class `p` at its two ends. -/
def trim (s : List Char) : List Char := trimRight p (trimLeft p s)

@[simp] theorem trim_nil : trim p [] = [] := rfl

theorem trimLeft_cons (c : Char) (s : List Char) :
    trimLeft p (c :: s) = if p c then trimLeft p s else c :: s := by
  simp [trimLeft, List.dropWhile_cons]

end CellMachine.Text
