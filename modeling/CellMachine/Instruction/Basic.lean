import CellMachine.Instruction.Operation
import CellMachine.Numeral
import CellMachine.Text.Lines

/-!
Decoded instructions. An instruction carries its opcode, defined or not, and the operands of its
layout: registers first, the address last.
-/

namespace CellMachine

/-- An address field. Zero has two readings: the move family takes its alternate register operand,
all other operations take the first data cell. -/
structure Address where
  field : UInt32
deriving DecidableEq, Repr

namespace Address

def isRegister (a : Address) : Bool := a.field == 0

/-- The cell that the field names when data begins at `dataOffset`. -/
def effective (a : Address) (dataOffset : Nat) : Nat := dataOffset + a.field.toNat

def text (a : Address) : String := String.ofList (Numeral.digits a.field.toNat)

end Address

inductive Instruction where
  | arithmetic (opcode reg1 reg2 reg3 : UInt8) (address : Address)
  | immediate (opcode reg1 reg2 : UInt8) (address : Address)
  | jump (opcode : UInt8) (address : Address)
  | transfer (opcode reg1 reg2 : UInt8) (address : Address)
deriving DecidableEq, Repr

namespace Instruction

def layout : Instruction → Layout
  | arithmetic .. => .arithmetic
  | immediate .. => .immediate
  | jump .. => .jump
  | transfer .. => .transfer

def opcode : Instruction → UInt8
  | arithmetic opcode .. => opcode
  | immediate opcode .. => opcode
  | jump opcode _ => opcode
  | transfer opcode .. => opcode

def operation? (i : Instruction) : Option Operation := Operation.ofCode? i.opcode

def reg1? : Instruction → Option UInt8
  | arithmetic _ reg1 _ _ _ => some reg1
  | immediate _ reg1 _ _ => some reg1
  | jump _ _ => none
  | transfer _ reg1 _ _ => some reg1

def reg2? : Instruction → Option UInt8
  | arithmetic _ _ reg2 _ _ => some reg2
  | immediate _ _ reg2 _ => some reg2
  | jump _ _ => none
  | transfer _ _ reg2 _ => some reg2

def reg3? : Instruction → Option UInt8
  | arithmetic _ _ _ reg3 _ => some reg3
  | _ => none

def address : Instruction → Address
  | arithmetic _ _ _ _ address => address
  | immediate _ _ _ address => address
  | jump _ address => address
  | transfer _ _ _ address => address

/-- The instruction of a layout with the given operands, in the order in which they are written.
Operands that are not given are zero, those beyond the arity are not used, and a register is taken
modulo 256. -/
def ofOperands (layout : Layout) (opcode : UInt8) (operands : List UInt32) : Instruction :=
  let register (k : Nat) : UInt8 := (operands.getD k 0).toUInt8
  let address (k : Nat) : Address := ⟨operands.getD k 0⟩
  match layout with
  | .arithmetic => arithmetic opcode (register 0) (register 1) (register 2) (address 3)
  | .immediate => immediate opcode (register 0) (register 1) (address 2)
  | .jump => jump opcode (address 0)
  | .transfer => transfer opcode (register 0) (register 1) (address 2)

/-- The operands in the order in which they are written. -/
def fields : Instruction → List UInt32
  | arithmetic _ reg1 reg2 reg3 address =>
    [reg1.toUInt32, reg2.toUInt32, reg3.toUInt32, address.field]
  | immediate _ reg1 reg2 address => [reg1.toUInt32, reg2.toUInt32, address.field]
  | jump _ address => [address.field]
  | transfer _ reg1 reg2 address => [reg1.toUInt32, reg2.toUInt32, address.field]

def operands (i : Instruction) : List UInt32 := i.opcode.toUInt32 :: i.fields

def layoutSuffix (l : Layout) : List Char := '.' :: 't' :: Numeral.digits l.code

/-- The mnemonic, with a suffix unless the layout is the one the operation is meant for. An
undefined opcode is written by its number. -/
def head (i : Instruction) : List Char :=
  match i.operation? with
  | some o => o.mnemonic.toList ++ if o.layout = i.layout then [] else layoutSuffix i.layout
  | none => 'O' :: 'P' :: Numeral.digits i.opcode.toNat ++ layoutSuffix i.layout

def chars (i : Instruction) : List Char :=
  i.head ++ '(' :: Text.joinWith [',', ' '] (i.fields.map fun f => Numeral.digits f.toNat) ++ [')']

def text (i : Instruction) : String := String.ofList i.chars

@[simp] theorem layout_ofOperands (l : Layout) (opcode : UInt8) (operands : List UInt32) :
    (ofOperands l opcode operands).layout = l := by cases l <;> rfl

@[simp] theorem opcode_ofOperands (l : Layout) (opcode : UInt8) (operands : List UInt32) :
    (ofOperands l opcode operands).opcode = opcode := by cases l <;> rfl

@[simp] theorem length_fields (i : Instruction) : i.fields.length = i.layout.arity := by
  cases i <;> rfl

@[simp] theorem ofOperands_fields (i : Instruction) :
    ofOperands i.layout i.opcode i.fields = i := by
  cases i <;> simp [ofOperands, layout, opcode, fields]

end Instruction

end CellMachine
