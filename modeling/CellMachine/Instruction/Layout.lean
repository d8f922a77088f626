/-!
The four layouts of an instruction word. Two bits select the layout, six hold the opcode, and the
layout divides the remaining twenty-four into register fields and, last, an address field.
-/

namespace CellMachine

inductive Operand where
  | reg1
  | reg2
  | reg3
  | address
deriving DecidableEq, Repr

def Operand.name : Operand → String
  | reg1 => "reg1"
  | reg2 => "reg2"
  | reg3 => "reg3"
  | address => "address"

/-- An operand of a layout and the number of bits it occupies. -/
structure Field where
  operand : Operand
  width : Nat
deriving DecidableEq, Repr

inductive Layout where
  | arithmetic
  | immediate
  | jump
  | transfer
deriving DecidableEq, Repr

namespace Layout

def all : List Layout := [arithmetic, immediate, jump, transfer]

def code : Layout → Nat
  | arithmetic => 0
  | immediate => 1
  | jump => 2
  | transfer => 3

def ofCode : Fin 4 → Layout
  | 0 => arithmetic
  | 1 => immediate
  | 2 => jump
  | 3 => transfer

def ofCode? (n : Nat) : Option Layout := all[n]?

def name : Layout → String
  | arithmetic => "arithmetic"
  | immediate => "conditional/immediate"
  | jump => "unconditional jump"
  | transfer => "input/output"

/-- The operand fields, from the ninth bit of the word on. -/
def fields : Layout → List Field
  | arithmetic => [⟨.reg1, 4⟩, ⟨.reg2, 4⟩, ⟨.reg3, 4⟩, ⟨.address, 4⟩]
  | immediate | transfer => [⟨.reg1, 4⟩, ⟨.reg2, 4⟩, ⟨.address, 16⟩]
  | jump => [⟨.address, 24⟩]

def arity (l : Layout) : Nat := l.fields.length

theorem code_lt (l : Layout) : l.code < 4 := by cases l <;> decide

@[simp] theorem ofCode_code (l : Layout) : ofCode ⟨l.code, l.code_lt⟩ = l := by cases l <;> rfl

@[simp] theorem ofCode?_code (l : Layout) : ofCode? l.code = some l := by cases l <;> rfl

end Layout

end CellMachine
