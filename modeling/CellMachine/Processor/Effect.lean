import CellMachine.Instruction.Basic
import CellMachine.Numeral

/-!
Effects: the one change an instruction makes, besides moving the program counter to the next
instruction, which all but jumps and halts do.
-/

namespace CellMachine

inductive Effect where
  | skip
  | setRegister (register : UInt8) (value : Int32)
  | store (index : Nat) (value : Int32)
  | jump (target : Nat)
  | halt
deriving DecidableEq, Repr

namespace Effect

def text : Effect → String
  | skip => "-"
  | setRegister register value =>
    s!"R{register.toNat} <- {String.ofList (Numeral.decimal value.toInt)}"
  | store index value => s!"M[{index}] <- {String.ofList (Numeral.decimal value.toInt)}"
  | jump target => s!"PC <- {target}"
  | halt => "halt"

end Effect

/-- The record of a completed cycle. -/
structure Cycle where
  /-- Where the instruction was fetched. -/
  address : Nat
  word : UInt32
  instruction : Instruction
  effect : Effect
deriving DecidableEq, Repr

end CellMachine
