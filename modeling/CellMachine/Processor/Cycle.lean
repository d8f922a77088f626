import CellMachine.Instruction.Codec
import CellMachine.Processor.Plan

/-!
The cycle: fetch the word at the program counter into the instruction register, decode what the
register holds, plan, and carry the plan out. Only the last step changes memory, process or other
registers, so a cycle that fails leaves at most a fetched word behind.

A turn is a cycle of a dispatched process: it keeps the state of the process and does nothing once
the process has halted.
-/

namespace CellMachine.Machine

def fetchedWord (m : Machine) : Except Fault UInt32 :=
  let index := m.process.counter
  match m.memory.read index with
  | .error f => .error f
  | .ok c =>
    match c.instructionWord? with
    | some w => .ok w
    | none => .error (.notAnInstruction index c.text)

def load (m : Machine) (w : UInt32) : Machine := m.withRegisters (m.registers.load w)

def fetch (m : Machine) : Except Fault (UInt32 × Machine) :=
  m.fetchedWord.map fun w => (w, m.load w)

def decoded (m : Machine) : Instruction := .decode m.registers.instruction

/-- Carries out an effect and moves the program counter: what stopped it, if anything did, and the
machine afterwards. -/
def commit (m : Machine) : Effect → Except Fault Unit × Machine
  | .skip => (.ok (), m.next)
  | .setRegister register v => (.ok (), (m.withRegisters (m.registers.set register v)).next)
  | .store index v =>
    match m.memory.write index v with
    | .error f => (.error f, m)
    | .ok memory => (.ok (), (m.withMemory memory).next)
  | .jump target => (.ok (), m.withProcess (m.process.goto target))
  | .halt => (.ok (), m.withProcess m.process.halt)

/-- Executes an instruction as if it had been fetched from the program counter: its effect or what
stopped it, and the machine afterwards. -/
def perform (m : Machine) (i : Instruction) : Except Fault Effect × Machine :=
  match m.plan i with
  | .error f => (.error f, m)
  | .ok e =>
    match m.commit e with
    | (.error f, m') => (.error f, m')
    | (.ok (), m') => (.ok e, m')

def execute (m : Machine) (i : Instruction) : Except Fault (Effect × Machine) :=
  match m.perform i with
  | (.error f, _) => .error f
  | (.ok e, m') => .ok (e, m')

/-- One cycle, whether or not the process has halted: its record or what stopped it, and the machine
afterwards. -/
def cycle (m : Machine) : Except Fault Cycle × Machine :=
  match m.fetch with
  | .error f => (.error f, m)
  | .ok (word, m') =>
    match m'.perform m'.decoded with
    | (.error f, m'') => (.error f, m'')
    | (.ok effect, m'') => (.ok ⟨m.process.counter, word, m'.decoded, effect⟩, m''.tick)

def withState (m : Machine) (state : ProcessState) : Machine :=
  m.withProcess (m.process.withState state)

/-- A process whose counter has reached the boundary is terminated. -/
def settle (m : Machine) : Machine :=
  if m.process.isHalted then m.withState .terminated else m

/-- One turn of a dispatched process; no cycle once it has halted. -/
def turn (m : Machine) : Except Fault (Option Cycle) × Machine :=
  if m.process.isHalted then (.ok none, m.withState .terminated)
  else
    match (m.withState .running).cycle with
    | (.error f, m') => (.error f, m')
    | (.ok c, m') => (.ok (some c), m'.settle)

inductive Verdict where
  | halted
  | failed (f : Fault)
  | pending
deriving DecidableEq, Repr

structure Stretch where
  verdict : Verdict
  machine : Machine
  cycles : Array Cycle
deriving DecidableEq, Repr

/-- At most `n` turns, as long as the process has not halted. `done` holds the cycles completed
before. -/
def advance : (n : Nat) → Machine → (done : Array Cycle) → Stretch
  | 0, m, done => ⟨if m.process.isHalted then .halted else .pending, m, done⟩
  | n + 1, m, done =>
    if m.process.isHalted then ⟨.halted, m, done⟩
    else
      match m.turn with
      | (.error f, m') => ⟨.failed f, m', done⟩
      | (.ok none, m') => ⟨.halted, m', done⟩
      | (.ok (some c), m') => advance n m' (done.push c)

@[simp] theorem decoded_load (m : Machine) (w : UInt32) :
    (m.load w).decoded = .decode w := by
  simp [decoded, load, withRegisters, registers]

theorem advance_halted {m : Machine} (h : m.process.isHalted = true) (n : Nat)
    (done : Array Cycle) : advance n m done = ⟨.halted, m, done⟩ := by
  cases n <;> simp [advance, h]

end CellMachine.Machine
