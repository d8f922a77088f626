import CellMachine.Files.ReadError
import CellMachine.Processor.Cycle

/-!
The kernel around the processor: a memory that files are loaded into, at most one process, and the
events that its trace reports.
-/

namespace CellMachine

inductive Failure where
  | fault (f : Fault)
  | unloadable (path : String) (cause : ReadError)
  /-- There is no process, or it has not been dispatched. -/
  | notScheduled
  | budgetExhausted (budget : Nat)
deriving DecidableEq, Repr

def Failure.message : Failure → String
  | fault f => f.message
  | unloadable path cause => s!"cannot load program `{path}`: {cause.message}"
  | notScheduled => "no process has been scheduled"
  | budgetExhausted budget =>
    s!"cycle budget of {budget} cycles exhausted before the program halted"

inductive Event where
  | loaded (lines : Nat) (path : String)
  | scheduled (boundary size : Nat)
  | dispatched (process : ControlBlock)
  | cycle (c : Cycle)
  | halted (cycles counter : Nat)
deriving DecidableEq, Repr

namespace Event

def alignRight (n : Nat) (s : String) : String := "".pushn ' ' (n - s.length) ++ s

def alignLeft (n : Nat) (s : String) : String := s.pushn ' ' (n - s.length)

def text : Event → String
  | loaded lines path => s!"Loaded {lines} lines from {path}"
  | scheduled boundary size =>
    s!"Long-term scheduler: {boundary} instruction cells, {size} cells in all"
  | dispatched process => s!"Short-term scheduler: dispatched {process.text}"
  | cycle c =>
    let address := alignRight 4 s!"{c.address}"
    let word := String.ofList (Numeral.hexadecimalWord c.word)
    let instruction := alignLeft 24 c.instruction.text
    s!"[{address}] {word}  {instruction} {c.effect.text}"
  | halted cycles counter => s!"Halted after {cycles} cycles at PC={counter}"

end Event

structure Kernel where
  processor : Processor
  process : Option ControlBlock
  memory : Memory
deriving DecidableEq, Repr

/-- What an operation of the kernel answers, the kernel it leaves, and what it reported. -/
structure Outcome (α : Type) where
  result : Except Failure α
  kernel : Kernel
  trace : List Event

namespace Outcome

def andThen {α β : Type} (o : Outcome α) (f : α → Kernel → Outcome β) : Outcome β :=
  match o.result with
  | .error e => ⟨.error e, o.kernel, o.trace⟩
  | .ok a =>
    let next := f a o.kernel
    { next with trace := o.trace ++ next.trace }

end Outcome

namespace Kernel

def init (config : Config) : Kernel := ⟨.init config, none, .empty⟩

/-- Without a process there is nothing left to do. -/
def isHalted (s : Kernel) : Bool :=
  match s.process with
  | some p => p.isHalted
  | none => true

def dispatched? (s : Kernel) : Option Machine :=
  match s.process with
  | some p => if p.state = .new then none else some ⟨s.processor, p, s.memory⟩
  | none => none

def ofMachine (m : Machine) : Kernel := ⟨m.processor, some m.process, m.memory⟩

def counter (s : Kernel) : Except Failure Nat :=
  match s.process with
  | some p => .ok p.counter
  | none => .error .notScheduled

def goto (s : Kernel) (counter : Nat) : Except Failure Kernel :=
  match s.process with
  | some p => .ok { s with process := some (p.goto counter) }
  | none => .error .notScheduled

end Kernel

end CellMachine
