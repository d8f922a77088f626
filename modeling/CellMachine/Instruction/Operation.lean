import CellMachine.Instruction.Layout

/-!
The twenty-seven operations, numbered by their opcodes, with their mnemonics and the layout each is
meant for.
-/

namespace CellMachine

inductive Operation where
  | rd | wr | st | lw
  | mov | add | sub | mul | div | and | or
  | movi | addi | muli | divi | ldi
  | slt | slti
  | hlt | nop | jmp | beq | bne | bez | bnz | bgz | blz
deriving DecidableEq, Repr

namespace Operation

def all : List Operation :=
  [rd, wr, st, lw, mov, add, sub, mul, div, and, or, movi, addi, muli, divi, ldi, slt, slti, hlt,
    nop, jmp, beq, bne, bez, bnz, bgz, blz]

def count : Nat := all.length

def mnemonic : Operation → String
  | rd => "RD"
  | wr => "WR"
  | st => "ST"
  | lw => "LW"
  | mov => "MOV"
  | add => "ADD"
  | sub => "SUB"
  | mul => "MUL"
  | div => "DIV"
  | and => "AND"
  | or => "OR"
  | movi => "MOVI"
  | addi => "ADDI"
  | muli => "MULI"
  | divi => "DIVI"
  | ldi => "LDI"
  | slt => "SLT"
  | slti => "SLTI"
  | hlt => "HLT"
  | nop => "NOP"
  | jmp => "JMP"
  | beq => "BEQ"
  | bne => "BNE"
  | bez => "BEZ"
  | bnz => "BNZ"
  | bgz => "BGZ"
  | blz => "BLZ"

/-- The layout that carries every operand the operation needs. -/
def layout : Operation → Layout
  | mov | add | sub | mul | div | and | or | slt => .arithmetic
  | hlt | nop | jmp => .jump
  | rd | wr => .transfer
  | st | lw | movi | addi | muli | divi | ldi | slti | beq | bne | bez | bnz | bgz | blz =>
    .immediate

def code (o : Operation) : UInt8 := UInt8.ofNat (all.idxOf o)

def ofCode? (code : UInt8) : Option Operation := all[code.toNat]?

/-- Mnemonics are spelled exactly, in capitals. -/
def ofMnemonic? (s : String) : Option Operation := all.find? (·.mnemonic == s)

@[simp] theorem ofCode?_code (o : Operation) : ofCode? o.code = some o := by cases o <;> rfl

@[simp] theorem ofMnemonic?_mnemonic (o : Operation) : ofMnemonic? o.mnemonic = some o := by
  cases o <;> decide

theorem mem_all (o : Operation) : o ∈ all := by cases o <;> decide

theorem ofCode?_eq_none_iff (code : UInt8) : ofCode? code = none ↔ 27 ≤ code.toNat := by
  simp [ofCode?, all]

end Operation

end CellMachine
