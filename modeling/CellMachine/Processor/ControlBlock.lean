/-!
The process: where a program stands, where its instructions end, and where its data begins.
-/

namespace CellMachine

inductive ProcessState where
  /-- Scheduled, not yet dispatched. -/
  | new
  /-- Dispatched. -/
  | ready
  /-- A cycle has begun. -/
  | running
  /-- The program counter has reached the boundary. -/
  | terminated
deriving DecidableEq, Repr

namespace ProcessState

def name : ProcessState → String
  | new => "New"
  | ready => "Ready"
  | running => "Running"
  | terminated => "Terminated"

def ofName? (s : String) : Option ProcessState :=
  [new, ready, running, terminated].find? (·.name == s)

end ProcessState

structure ControlBlock where
  counter : Nat
  /-- The number of instructions, which is the index of the first cell after them. -/
  boundary : Nat
  /-- Added to every address field to give the index of a data cell. -/
  dataOffset : Nat
  state : ProcessState
deriving DecidableEq, Repr

namespace ControlBlock

/-- A process that stands at its first instruction and is not yet dispatched. -/
def init (boundary dataOffset : Nat) : ControlBlock := ⟨0, boundary, dataOffset, .new⟩

def goto (p : ControlBlock) (counter : Nat) : ControlBlock := { p with counter }

/-- The process ends when its counter reaches the boundary. -/
def isHalted (p : ControlBlock) : Bool := p.boundary ≤ p.counter

def halt (p : ControlBlock) : ControlBlock := p.goto p.boundary

def withState (p : ControlBlock) (state : ProcessState) : ControlBlock := { p with state }

def text (p : ControlBlock) : String :=
  s!"PC={p.counter} instructions={p.boundary} data offset={p.dataOffset} state={p.state.name}"

@[simp] theorem isHalted_halt (p : ControlBlock) : p.halt.isHalted = true := by
  simp [halt, goto, isHalted]

end ControlBlock

end CellMachine
