import CellMachine.Text.PrintTable
import CellMachine.Text.Ranges

/-!
Quotation of a text inside a message: in double quotes, with escapes for the characters that would
end it, break the line, or not show.
-/

namespace CellMachine.Text

/-- Shown as it is: neither unprintable nor a mark on the character before it. -/
def isPrintable (c : Char) : Bool :=
  !(inRanges c.toNat extendingMarks || inRanges c.toNat unprintable)

def escape (c : Char) : List Char :=
  match c with
  | '"' => ['\\', '"']
  | '\\' => ['\\', '\\']
  | '\t' => ['\\', 't']
  | '\r' => ['\\', 'r']
  | '\n' => ['\\', 'n']
  | '\x00' => ['\\', '0']
  | c =>
    if isPrintable c then [c]
    else ['\\', 'u', '\x7b'] ++ Nat.toDigits 16 c.toNat ++ ['\x7d']

def quote (s : List Char) : List Char := '"' :: s.flatMap escape ++ ['"']

def quoted (s : String) : String := String.ofList (quote s.toList)

end CellMachine.Text
