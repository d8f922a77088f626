import CellMachine.Instruction.Operation
import CellMachine.Text.Quoted

/-!
What stops a cycle. An undefined opcode is no fault: it does nothing.
-/

namespace CellMachine

inductive Fault where
  /-- The fetched cell is no instruction word. -/
  | notAnInstruction (index : Nat) (text : String)
  /-- A cell read as data is no data word. -/
  | notData (index : Nat) (text : String)
  /-- An address or a jump target names no cell of a memory of `size` cells. -/
  | outside (index : Int) (size : Nat)
  | divisionByZero
  /-- The layout has no field for a register that the operation needs. -/
  | missingOperand (operation : Operation) (operand : Operand) (layout : Layout)
deriving DecidableEq, Repr

namespace Fault

def message : Fault → String
  | notAnInstruction index text =>
    s!"cell {index} does not hold an instruction word: {Text.quoted text}"
  | notData index text => s!"cell {index} does not hold a data word: {Text.quoted text}"
  | outside index size => s!"memory fault: address {index} is outside a store of {size} cells"
  | divisionByZero => "division by zero"
  | missingOperand operation operand layout =>
    s!"{operation.mnemonic} needs operand `{operand.name}`, " ++
      s!"which a {layout.name} instruction does not carry"

end Fault

end CellMachine
