import CellMachine.Kernel.Run
import CellMachine.Kernel.Schedule

/-!
Calls on the kernel, made one after another. A call that has come back has left a kernel and a
trace, whether it succeeded or not, and any call may follow it; only a run without a budget need
not come back.
-/

namespace CellMachine

inductive Call where
  | loadLines (lines : List String)
  /-- Loads a file, given what reading it yielded. -/
  | load (path : String) (contents : Except ReadError String)
  | schedule
  | dispatch
  | cycle
  | run

/-- The calls that work on the program as it has been scheduled. -/
def Call.drives : Call → Bool
  | dispatch | cycle | run => true
  | _ => false

def Outcome.forget {α : Type} (o : Outcome α) : Outcome Unit :=
  { o with result := o.result.map fun _ => () }

namespace Kernel

/-- What a call amounts to. A run without a budget is followed for `limit` cycles. -/
def answer (limit : Nat) (s : Kernel) : Call → Option (Outcome Unit)
  | .loadLines lines => some ⟨.ok (), s.loadLines lines, []⟩
  | .load path contents => some (s.load path contents).forget
  | .schedule => some s.schedule.forget
  | .dispatch => some s.dispatch.forget
  | .cycle => some s.cycle.forget
  | .run => (s.run limit).map Outcome.forget

def Answers (s : Kernel) (call : Call) (o : Outcome Unit) : Prop :=
  ∃ limit, s.answer limit call = some o

/-- What calls amount to that are made one after another: all that they report, and the kernel they
leave. Nothing if one of them is given up. -/
def answerAll (limit : Nat) (s : Kernel) : List Call → Option (List Event × Kernel)
  | [] => some ([], s)
  | call :: calls =>
    (s.answer limit call).bind fun o =>
      (answerAll limit o.kernel calls).map fun (trace, s') => (o.trace ++ trace, s')

/-- Consecutive calls of `cycle` that all complete one. -/
inductive Cycles : Kernel → List Cycle → Kernel → Prop where
  | nil (s : Kernel) : Cycles s [] s
  | cons {s s' : Kernel} {c : CellMachine.Cycle} {cs : List CellMachine.Cycle}
    (first : s.cycle.result = .ok (some c)) (rest : Cycles s.cycle.kernel cs s') :
    Cycles s (c :: cs) s'

/-- A new kernel in which lines have been loaded, scheduled and dispatched. -/
def ready (config : Config) (lines : List String) : Kernel :=
  (((init config).loadLines lines).schedule.andThen fun _ s => s.dispatch).kernel

end Kernel

/-- A history: the kernel it starts from, the calls, all that they reported, and the kernel they
leave. -/
inductive History : Kernel → List Call → List Event → Kernel → Prop where
  | nil (s : Kernel) : History s [] [] s
  | snoc {s s' : Kernel} {calls : List Call} {trace : List Event} {call : Call} {o : Outcome Unit}
    (earlier : History s calls trace s') (last : s'.Answers call o) :
    History s (calls ++ [call]) (trace ++ o.trace) o.kernel

namespace Event

def cycle? : Event → Option Cycle
  | cycle c => some c
  | _ => none

/-- Counts completed cycles, anew from every dispatch. -/
def count (n : Nat) : Event → Nat
  | dispatched _ => 0
  | cycle _ => n + 1
  | _ => n

end Event

def cyclesOf (trace : List Event) : List Cycle := trace.filterMap Event.cycle?

/-- How many cycles a trace reports after the last dispatch. -/
def cyclesSinceDispatch (trace : List Event) : Nat := trace.foldl Event.count 0

end CellMachine
