import CellMachine.Kernel.Basic

/-!
Running the dispatched process, a cycle at a time or until it halts. A run that has no budget may go
on for ever; `run` follows it for a limited number of cycles and answers nothing if that is not
enough.
-/

namespace CellMachine

structure Summary where
  cycles : Nat
  counter : Nat
  state : ProcessState
deriving DecidableEq, Repr

namespace Kernel

/-- One cycle of the dispatched process; none once it has halted. -/
def cycle (s : Kernel) : Outcome (Option Cycle) :=
  match s.dispatched? with
  | none => ⟨.error .notScheduled, s, []⟩
  | some m =>
    match m.turn with
    | (.error f, m') => ⟨.error (.fault f), ofMachine m', []⟩
    | (.ok none, m') => ⟨.ok none, ofMachine m', []⟩
    | (.ok (some c), m') => ⟨.ok (some c), ofMachine m', [.cycle c]⟩

/-- Runs the dispatched process until it halts, fails, or has used up its budget. A run without a
budget is given up after `limit` cycles. -/
def run (limit : Nat) (s : Kernel) : Option (Outcome Summary) :=
  match s.dispatched? with
  | none => some ⟨.error .notScheduled, s, []⟩
  | some m =>
    let budget := m.config.budget
    let stretch := m.advance (budget.getD limit) #[]
    let m' := stretch.machine
    let trace := stretch.cycles.toList.map Event.cycle
    match stretch.verdict with
    | .halted =>
      let m' := m'.withState .terminated
      let cycles := m'.processor.cycles - m.processor.cycles
      let counter := m'.process.counter
      some ⟨.ok ⟨cycles, counter, m'.process.state⟩, ofMachine m',
        trace ++ [.halted cycles counter]⟩
    | .failed f => some ⟨.error (.fault f), ofMachine m', trace⟩
    | .pending => budget.map fun b => ⟨.error (.budgetExhausted b), ofMachine m', trace⟩

end Kernel

end CellMachine
