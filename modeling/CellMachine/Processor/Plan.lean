import CellMachine.Processor.Effect
import CellMachine.Processor.Machine

/-!
Planning: what an instruction would do to a machine. A plan reads every operand and checks every
address, and changes nothing.

The roles of the operands, with `M` the data cell at the effective address:

    RD           reg1 ← M, or reg2 when the address field is 0
    WR ST        M ← reg1, or reg2 ← reg1 when the address field is 0
    LW           reg2 ← M, or reg2 ← reg1 when the address field is 0
    MOV          reg3 ← reg1
    ADD SUB MUL  reg3 ← reg1 ∘ reg2, wrapping
    DIV          reg3 ← reg1 / reg2, truncating
    AND          reg3 ← 1 if reg1 = reg2, else 0
    OR           reg3 ← 1 if reg1 = 1 or reg2 = 1, else 0
    SLT          reg3 ← 1 if reg1 < reg2, else 0
    MOVI LDI     reg2 ← M
    ADDI MULI    reg2 ← reg2 ∘ M, wrapping
    DIVI         reg2 ← reg2 / M, truncating
    SLTI         reg2 ← 1 if reg1 < M, else 0
    HLT          PC ← boundary
    JMP          PC ← target
    BEQ BNE      PC ← target if reg1 = reg2, or if they differ
    BEZ BNZ      PC ← target if reg1 = 0, or if it is not
    BGZ BLZ      PC ← target if reg1 > 0, or if reg1 < 0
-/

namespace CellMachine

namespace Instruction

def register? (i : Instruction) : Operand → Option UInt8
  | .reg1 => i.reg1?
  | .reg2 => i.reg2?
  | .reg3 => i.reg3?
  | .address => none

/-- A register that operation `o` cannot do without. -/
def need (i : Instruction) (o : Operation) (operand : Operand) : Except Fault UInt8 :=
  match i.register? operand with
  | some register => .ok register
  | none => .error (.missingOperand o operand i.layout)

end Instruction

def flag (b : Bool) : Int32 := if b then 1 else 0

/-- Division toward zero; the smallest word divided by minus one is itself. -/
def divide (a b : Int32) : Except Fault Int32 :=
  if b = 0 then .error .divisionByZero else .ok (a / b)

namespace Machine

variable (m : Machine) (o : Operation) (i : Instruction)

def get (register : UInt8) : Int32 := m.registers.get register

def dataIndex : Nat := i.address.effective m.process.dataOffset

def dataWord : Except Fault Int32 := m.memory.readWord (m.dataIndex i)

def jumpTarget : Except Fault Nat :=
  match m.config.jumps with
  | .indirect => do m.memory.locate (← m.dataWord i).toInt
  | .direct => m.memory.locate i.address.field.toNat

def branch (taken : Bool) : Except Fault Effect :=
  if taken then do return .jump (← m.jumpTarget i) else .ok .skip

/-- `reg3 ← reg1 ∘ reg2` -/
def combine (f : Int32 → Int32 → Except Fault Int32) : Except Fault Effect := do
  let target ← i.need o .reg3
  let a ← i.need o .reg1
  let b ← i.need o .reg2
  return .setRegister target (← f (m.get a) (m.get b))

/-- `reg2 ← reg2 ∘ M` -/
def adjust (f : Int32 → Int32 → Except Fault Int32) : Except Fault Effect := do
  let target ← i.need o .reg2
  return .setRegister target (← f (m.get target) (← m.dataWord i))

def branchIf (p : Int32 → Bool) : Except Fault Effect := do
  let a ← i.need o .reg1
  m.branch i (p (m.get a))

def branchIfBoth (p : Int32 → Int32 → Bool) : Except Fault Effect := do
  let a ← i.need o .reg1
  let b ← i.need o .reg2
  m.branch i (p (m.get a) (m.get b))

def planAs : Except Fault Effect :=
  match o with
  | .rd => do
    let target ← i.need o .reg1
    if i.address.isRegister then return .setRegister target (m.get (← i.need o .reg2))
    else return .setRegister target (← m.dataWord i)
  | .wr | .st => do
    let source ← i.need o .reg1
    if i.address.isRegister then return .setRegister (← i.need o .reg2) (m.get source)
    else
      m.memory.check (m.dataIndex i)
      return .store (m.dataIndex i) (m.get source)
  | .lw => do
    let target ← i.need o .reg2
    if i.address.isRegister then return .setRegister target (m.get (← i.need o .reg1))
    else return .setRegister target (← m.dataWord i)
  | .mov => do
    let target ← i.need o .reg3
    return .setRegister target (m.get (← i.need o .reg1))
  | .add => m.combine o i fun a b => .ok (a + b)
  | .sub => m.combine o i fun a b => .ok (a - b)
  | .mul => m.combine o i fun a b => .ok (a * b)
  | .div => m.combine o i divide
  | .and => m.combine o i fun a b => .ok (flag (a == b))
  | .or => do
    let a ← i.need o .reg1
    let b ← i.need o .reg2
    let target ← i.need o .reg3
    return .setRegister target (flag (m.get a == 1 || m.get b == 1))
  | .slt => m.combine o i fun a b => .ok (flag (a < b))
  | .movi | .ldi => m.adjust o i fun _ v => .ok v
  | .addi => m.adjust o i fun a v => .ok (a + v)
  | .muli => m.adjust o i fun a v => .ok (a * v)
  | .divi => m.adjust o i divide
  | .slti => do
    let target ← i.need o .reg2
    let a ← i.need o .reg1
    return .setRegister target (flag (m.get a < (← m.dataWord i)))
  | .hlt =>
    match m.config.halt with
    | .terminate => .ok .halt
    | .legacy => .ok .skip
  | .nop => .ok .skip
  | .jmp => m.branch i true
  | .beq => m.branchIfBoth o i fun a b => a == b
  | .bne => m.branchIfBoth o i fun a b => a != b
  | .bez => m.branchIf o i fun a => a == 0
  | .bnz => m.branchIf o i fun a => a != 0
  | .bgz => m.branchIf o i fun a => 0 < a
  | .blz => m.branchIf o i fun a => a < 0

/-- The effect of an instruction. One with an undefined opcode has none. -/
def plan : Except Fault Effect :=
  match i.operation? with
  | some o => m.planAs o i
  | none => .ok .skip

end Machine

end CellMachine
