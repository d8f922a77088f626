import CellMachine.Memory.Store
import CellMachine.Processor.ControlBlock
import CellMachine.Processor.Registers

/-!
The machine: what one cycle works on.
-/

namespace CellMachine

structure Processor where
  registers : Registers
  config : Config
  /-- Cycles completed since the last reset. -/
  cycles : Nat
deriving DecidableEq, Repr

namespace Processor

def init (config : Config) : Processor := ⟨.init config.slot, config, 0⟩

def reset (p : Processor) : Processor := { p with registers := p.registers.reset, cycles := 0 }

end Processor

structure Machine where
  processor : Processor
  process : ControlBlock
  memory : Memory
deriving DecidableEq, Repr

namespace Machine

def registers (m : Machine) : Registers := m.processor.registers

def config (m : Machine) : Config := m.processor.config

def withRegisters (m : Machine) (r : Registers) : Machine :=
  { m with processor := { m.processor with registers := r } }

def withProcess (m : Machine) (p : ControlBlock) : Machine := { m with process := p }

def withMemory (m : Machine) (memory : Memory) : Machine := { m with memory }

def tick (m : Machine) : Machine :=
  { m with processor := { m.processor with cycles := m.processor.cycles + 1 } }

def next (m : Machine) : Machine := m.withProcess (m.process.goto (m.process.counter + 1))

end Machine

end CellMachine
