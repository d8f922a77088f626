import CellMachine.Proofs.Budgets
import CellMachine.Proofs.CodeIntegrity
import CellMachine.Proofs.Failures

/-!
Faults are sticky. A cycle that fails has fetched its word at most, and to fetch the word again
changes nothing. So the next attempt plans the same instruction over the same operands and the same
memory, although the register that holds the fetched word may be one of the operands: it holds that
word already. It is stopped by the same fault, and so is every later one.
-/

namespace CellMachine

lemma Registers.load_load (r : Registers) (w : UInt32) : (r.load w).load w = r.load w := by
  rcases hs : r.slot with _ | _
  · simp [load, hs]
  · simp [load, hs]

namespace Machine

variable {m m' : Machine} {f : Fault}

lemma load_load (m : Machine) (w : UInt32) : (m.load w).load w = m.load w := by
  have hregisters : (m.load w).registers.load w = m.registers.load w :=
    Registers.load_load m.registers w
  rw [load, hregisters]
  rfl

lemma afterFetch_afterFetch (m : Machine) : m.afterFetch.afterFetch = m.afterFetch := by
  rcases hw : m.wordAtCounter? with _ | w
  · rw [afterFetch_of_none hw, afterFetch_of_none hw]
  · have hloaded : (m.load w).wordAtCounter? = some w := hw
    rw [afterFetch_of_some hw, afterFetch_of_some hloaded, load_load]

/-- What stops a cycle still stops it when the word has been fetched. -/
lemma Stops.again (h : Stops m f) : Stops m.afterFetch f := by
  cases h with
  | fetch fetched =>
    have hstay : m.afterFetch = m := by simp only [afterFetch, fetched]
    rw [hstay]
    exact .fetch fetched
  | plan w fetched planned =>
    rw [afterFetch_of_some (fetchedWord_eq_ok_iff.mp fetched)]
    have hrefetched : (m.load w).fetchedWord = .ok w := fetched
    exact .plan w hrefetched (by rwa [load_load])

/-- **A turn that has failed fails again, and changes nothing.** -/
theorem turn_again (h : m.turn = (.error f, m')) : m'.turn = (.error f, m') := by
  obtain ⟨hh, hstop, rfl⟩ := turn_eq_error_iff.mp h
  have hrunning : (m.withState .running).afterFetch.withState .running =
      (m.withState .running).afterFetch := by
    unfold afterFetch
    split <;> rfl
  refine turn_eq_error_iff.mpr ⟨?_, ?_, ?_⟩
  · rw [process_afterFetch]
    exact hh
  · rw [hrunning]
    exact hstop.again
  · rw [hrunning, afterFetch_afterFetch]

end Machine

namespace Kernel

open Machine

variable {s : Kernel} {m m' : Machine} {f : Fault} {call : Call} {o : Outcome Unit}
  {calls : List Call} {os : List (Outcome Unit)}

/-- The outcomes of calls made one after another: each call meets the kernel that the one before it
has left. -/
inductive Outcomes : Kernel → List Call → List (Outcome Unit) → Prop where
  | nil (s : Kernel) : Outcomes s [] []
  | cons {s : Kernel} {call : Call} {calls : List Call} {o : Outcome Unit}
    {os : List (Outcome Unit)}
    (first : s.Answers call o) (rest : Outcomes o.kernel calls os) :
    Outcomes s (call :: calls) (o :: os)

def faultOutcome (f : Fault) (s : Kernel) : Outcome Unit := ⟨.error (.fault f), s, []⟩

/-- A run that has no budget is given up before its first cycle if it is not followed at all. -/
lemma run_unfollowed (h : s.dispatched? = some m) (hb : m.config.budget = none)
    (goes_on : m.process.isHalted = false) : s.run 0 = none := by
  have hstretch := advance_of_ends (.pending (.nil m) rfl goes_on)
  simp only [List.length_nil] at hstretch
  simp only [run, h, hb, Option.getD_none, hstretch, Option.map_none]

/-- **A machine whose turn fails and leaves it as it is answers every call with that fault.** -/
theorem answers_iff_of_stuck (hm : m.process.state ≠ .new) (hb : m.config.budget ≠ some 0)
    (turn : m.turn = (.error f, m)) (hc : call = .cycle ∨ call = .run) :
    (ofMachine m).Answers call o ↔ o = faultOutcome f (ofMachine m) := by
  have hd := dispatched?_ofMachine hm
  rcases hc with rfl | rfl
  · have hcycle : (ofMachine m).cycle.forget = faultOutcome f (ofMachine m) := by
      rw [cycle_of_failed hd turn]
      rfl
    simp only [Answers, answer, hcycle, Option.some.injEq, exists_const, eq_comm]
  · -- Whether the run is followed for long enough is a matter of its first turn.
    have hrun : ∀ limit, 0 < m.config.budget.getD limit →
        (ofMachine m).answer limit .run = some (faultOutcome f (ofMachine m)) := by
      intro limit hpos
      rw [answer, run_of_failed hd (.nil m) hpos turn]
      rfl
    constructor
    · rintro ⟨limit, h⟩
      rcases Nat.eq_zero_or_pos (m.config.budget.getD limit) with hzero | hpos
      · have hnone : m.config.budget = none := by
          rcases hbudget : m.config.budget with _ | b
          · rfl
          · rw [hbudget, Option.getD_some] at hzero
            exact absurd (hzero ▸ hbudget) hb
        obtain rfl : limit = 0 := by rwa [hnone, Option.getD_none] at hzero
        have hgoes := (turn_eq_error_iff.mp turn).1
        simp [answer, run_unfollowed hd hnone hgoes] at h
      · rw [hrun limit hpos, Option.some.injEq] at h
        exact h.symm
    · rintro rfl
      refine ⟨1, hrun 1 ?_⟩
      rcases hbudget : m.config.budget with _ | b
      · exact Nat.one_pos
      · exact Nat.pos_of_ne_zero fun hzero => hb (hzero ▸ hbudget)

/-- **Calls on such a machine all have that outcome**, however many are made. -/
theorem outcomes_iff_of_stuck (hm : m.process.state ≠ .new) (hb : m.config.budget ≠ some 0)
    (turn : m.turn = (.error f, m)) (hcalls : ∀ c ∈ calls, c = .cycle ∨ c = .run) :
    (ofMachine m).Outcomes calls os ↔
      os = List.replicate calls.length (faultOutcome f (ofMachine m)) := by
  -- Every call leaves the kernel that it meets, so the next one is the same case.
  induction calls generalizing os with
  | nil =>
    constructor
    · rintro ⟨⟩
      rfl
    · rintro rfl
      exact .nil _
  | cons call rest ih =>
    obtain ⟨hcall, hrest⟩ := List.forall_mem_cons.mp hcalls
    constructor
    · rintro (_ | ⟨first, more⟩)
      obtain rfl := (answers_iff_of_stuck hm hb turn hcall).mp first
      rw [(ih hrest).mp more]
      rfl
    · rintro rfl
      exact .cons ((answers_iff_of_stuck hm hb turn hcall).mpr rfl) ((ih hrest).mpr rfl)

end Kernel

open Kernel Machine

/-- **Faults are sticky.** If a cycle or a run of a process fails by a fault, then whatever cycles
and runs are called after it, in any order, they all come back, and all of them with that fault:
they complete no cycle, report nothing, and leave the kernel as the first failure has left it, with
its memory, its registers, its process and its number of cycles. Only a budget of no cycles at all
keeps a run from meeting the fault. -/
theorem faults_are_sticky {s : Kernel} {call : Call} {o : Outcome Unit} {f : Fault}
    (hc : call = .cycle ∨ call = .run) (hb : s.budget ≠ some 0) (ha : s.Answers call o)
    (hf : o.result = .error (.fault f)) {calls : List Call}
    (hcalls : ∀ c ∈ calls, c = .cycle ∨ c = .run) (os : List (Outcome Unit)) :
    o.kernel.Outcomes calls os ↔
      os = List.replicate calls.length ⟨.error (.fault f), o.kernel, []⟩ := by
  rcases answers_drive hc ha with ⟨-, rfl⟩ | ⟨m, m', cs, hd, hl, hk, -⟩
  · simp at hf
  · have hstate := hl.state (dispatched?_eq_some_iff.mp hd).1
    rw [budget_of_dispatched hd] at hb
    rw [hf] at hl
    cases hl with
    | failed run turn =>
      have hconfig : m'.config = m.config := by
        obtain ⟨-, -, rfl⟩ := turn_eq_error_iff.mp turn
        rw [config_afterFetch]
        exact run.sameCode.frame.config
      rw [hk]
      exact outcomes_iff_of_stuck hstate (hconfig ▸ hb) (turn_again turn) hcalls

/-- A division of the instruction register by zero, after one cycle of a run. Fetching has already
changed the dividend. -/
theorem faults_are_sticky_division :
    ∃ o, (ready { budget := some 5 } ["0x93000000", "0x08213000"]).Answers .run o ∧
      o.result = .error (.fault .divisionByZero) ∧
      o.kernel.processor.registers.get 2 = 0x08213000 ∧ o.kernel.processor.cycles = 1 ∧
      ∃ os, o.kernel.Outcomes [.cycle, .run, .run, .cycle] os ∧
        os = List.replicate 4 ⟨.error (.fault .divisionByZero), o.kernel, []⟩ := by
  obtain ⟨o, ho, hresult, hregister, hcycles⟩ :
      ∃ o, (ready { budget := some 5 } ["0x93000000", "0x08213000"]).answer 0 .run = some o ∧
        o.result = .error (.fault .divisionByZero) ∧
        o.kernel.processor.registers.get 2 = 0x08213000 ∧ o.kernel.processor.cycles = 1 :=
    ⟨_, rfl, by decide +kernel, by decide +kernel, by decide +kernel⟩
  have hsticky := faults_are_sticky (.inr rfl) (by decide +kernel) ⟨0, ho⟩ hresult
    (show ∀ c ∈ [Call.cycle, .run, .run, .cycle], c = .cycle ∨ c = .run by simp)
  exact ⟨o, ⟨0, ho⟩, hresult, hregister, hcycles, _, (hsticky _).mpr rfl, rfl⟩

end CellMachine
