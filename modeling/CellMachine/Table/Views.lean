import CellMachine.Kernel.Basic
import CellMachine.Table.Grid

/-!
The registers, the memory and the whole kernel as tables.
-/

namespace CellMachine

def rowLabel (name : String) (k : Nat) (marked : Bool) : Grid.Entry :=
  ⟨(if marked then "* --> " else "") ++ s!"{name}[{k}] =", .right⟩

def registerGrid (name : Char) (values : List String) (marked : Option Nat) : Grid where
  titles := [⟨"Register", .right⟩, ⟨"Contents", .left⟩]
  rows := values.zipIdx.map fun (v, k) =>
    [rowLabel (String.singleton name) k (marked == some k), ⟨v, .left⟩]

/-- One row for every cell: an arrow at the program counter, and the instruction beside every
instruction word before the boundary. -/
def Memory.grid (m : Memory) (process : Option ControlBlock) : Grid where
  titles := [⟨"Address", .right⟩, ⟨"Contents", .left⟩, ⟨"Decoded", .left⟩]
  rows := m.cells.toList.zipIdx.map fun (c, k) =>
    let isCode := process.any (k < ·.boundary)
    let decoded :=
      match isCode, c.instructionWord? with
      | true, some w => (Instruction.decode w).text
      | _, _ => ""
    [rowLabel "M" k (process.any (·.counter == k)), ⟨c.text, .left⟩, ⟨decoded, .left⟩]

namespace Registers

/-- An arrow points to the register that holds the fetched instruction. -/
def grid (r : Registers) : Grid :=
  registerGrid 'R' (r.general.toList.map fun v => String.ofList (Numeral.decimal v.toInt))
    (match r.slot with
      | .general => some Registers.shared.val
      | .dedicated => none)

end Registers

namespace Kernel

def grid (memory registers : String) : Grid where
  titles := [⟨"Memory", .left⟩, ⟨"Registers", .left⟩]
  rows := [[⟨memory, .left⟩, ⟨registers, .left⟩]]

/-- The process, the count of cycles, and the tables of memory and registers within a third one. -/
def display (typeset : Typesetter) (s : Kernel) : Except String String := do
  let process :=
    match s.process with
    | some p => p.text
    | none => "No process scheduled."
  let memory ← typeset (s.memory.grid s.process)
  let registers ← typeset s.processor.registers.grid
  let tables ← typeset (grid memory registers)
  return s!"{process}\tcycles={s.processor.cycles}\n{tables}"

end Kernel

end CellMachine
