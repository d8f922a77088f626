import CellMachine.Instruction.Layout
import CellMachine.Numeral
import CellMachine.Text.Quoted

/-!
What can be wrong with a line of assembly source. A defect belongs to the line's text; a diagnostic
adds the number of the line.
-/

namespace CellMachine.Assembly

inductive Defect where
  | notAnOperation (name : String)
  | wrongArity (name : String) (layout : Layout) (given : Nat)
  | overflow (field : Field) (value : UInt32)
  | unreadable (text : String)
deriving DecidableEq, Repr

def Defect.message : Defect → String
  | notAnOperation name => s!"{name} is not an operation"
  | wrongArity name layout given =>
    s!"{name} as a {layout.name} instruction takes {layout.arity} arguments but was given {given}"
  | overflow field value =>
    s!"{value.toNat} does not fit in the {field.width} bit `{field.operand.name}` field"
  | unreadable text => s!"{Text.quoted text} is not an instruction or data word"

/-- A defect and the number of its line, counted from one. -/
structure Diagnostic where
  line : Nat
  defect : Defect
deriving DecidableEq, Repr

namespace Diagnostic

def message (d : Diagnostic) : String := s!"error on line {d.line}: {d.defect.message}"

/-- The same defect, `k` lines further down. -/
def shift (k : Nat) (d : Diagnostic) : Diagnostic := { d with line := d.line + k }

end Diagnostic

end CellMachine.Assembly
