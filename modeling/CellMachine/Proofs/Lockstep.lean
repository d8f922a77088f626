import CellMachine.Proofs.Histories

/-!
Lockstep. If a relation between two machines survives everything but a cycle, and related machines
make the same cycle and stay related, then they go through the same histories: what is called on
one of them is answered by both in the same way.
-/

namespace CellMachine

open Machine

/-- A relation between machines that make the same cycles. -/
structure Lockstep (R : Machine → Machine → Prop) : Prop where
  process : ∀ {m m'}, R m m' → m.process = m'.process
  cycles : ∀ {m m'}, R m m' → m.processor.cycles = m'.processor.cycles
  budget : ∀ {m m'}, R m m' → m.config.budget = m'.config.budget
  withState : ∀ {m m'} state, R m m' → R (m.withState state) (m'.withState state)
  restart : ∀ {m m'}, R m m' → R m.restart m'.restart
  cycle : ∀ {m m'}, R m m' → m.process.isHalted = false →
    m.cycle.1 = m'.cycle.1 ∧ R m.cycle.2 m'.cycle.2

variable {R : Machine → Machine → Prop} {m m' : Machine}

/-- Both kernels have a process, and their machines are related. -/
def Kernel.Related (R : Machine → Machine → Prop) (s s' : Kernel) : Prop :=
  ∃ m m', s = ofMachine m ∧ s' = ofMachine m' ∧ R m m'

structure Outcome.Related (R : Machine → Machine → Prop) {α : Type} (o o' : Outcome α) : Prop where
  result : o.result = o'.result
  trace : o.trace = o'.trace
  kernel : Kernel.Related R o.kernel o'.kernel

lemma Outcome.Related.forget {α : Type} {o o' : Outcome α} (h : Outcome.Related R o o') :
    Outcome.Related R o.forget o'.forget :=
  ⟨by simp only [Outcome.forget, h.result], h.trace, h.kernel⟩

namespace Lockstep

lemma isHalted (h : Lockstep R) (hr : R m m') : m.process.isHalted = m'.process.isHalted := by
  rw [h.process hr]

lemma settle (h : Lockstep R) (hr : R m m') : R m.settle m'.settle := by
  unfold Machine.settle
  rw [h.isHalted hr]
  split
  · exact h.withState _ hr
  · exact hr

lemma turn (h : Lockstep R) (hr : R m m') : m.turn.1 = m'.turn.1 ∧ R m.turn.2 m'.turn.2 := by
  rcases hh : m.process.isHalted with _ | _
  · have hh' : m'.process.isHalted = false := (h.isHalted hr).symm.trans hh
    rw [turn_of_active hh, turn_of_active hh']
    obtain ⟨hresult, hnext⟩ := h.cycle (h.withState .running hr) hh
    rcases hc : (m.withState .running).cycle with ⟨r, m₁⟩
    rcases hc' : (m'.withState .running).cycle with ⟨r', m₁'⟩
    rw [hc, hc'] at hresult hnext
    obtain rfl : r = r' := hresult
    rcases r with f | c
    · exact ⟨rfl, hnext⟩
    · exact ⟨rfl, h.settle hnext⟩
  · have hh' : m'.process.isHalted = true := (h.isHalted hr).symm.trans hh
    rw [turn_of_halted hh, turn_of_halted hh']
    exact ⟨rfl, h.withState _ hr⟩

lemma advance (h : Lockstep R) (n : ℕ) (hr : R m m') (done : Array Cycle) :
    (m.advance n done).verdict = (m'.advance n done).verdict ∧
      (m.advance n done).cycles = (m'.advance n done).cycles ∧
      R (m.advance n done).machine (m'.advance n done).machine := by
  have hhalted := h.isHalted hr
  induction n generalizing m m' done with
  | zero =>
    have hverdict : (m.advance 0 done).verdict = (m'.advance 0 done).verdict := by
      simp only [Machine.advance, hhalted]
    exact ⟨hverdict, rfl, hr⟩
  | succ n ih =>
    obtain ⟨hresult, hnext⟩ := h.turn hr
    rcases ht : m.turn with ⟨r, m₁⟩
    rcases ht' : m'.turn with ⟨r', m₁'⟩
    rw [ht, ht'] at hresult hnext
    obtain rfl : r = r' := hresult
    simp only [Machine.advance, hhalted, ht, ht']
    split
    · exact ⟨rfl, rfl, hr⟩
    · rcases r with f | _ | c
      · exact ⟨rfl, rfl, hnext⟩
      · exact ⟨rfl, rfl, hnext⟩
      · exact ih hnext (done.push c) (h.isHalted hnext)

/-! ### Calls -/

lemma dispatched? (h : Lockstep R) (hr : R m m') :
    (Kernel.ofMachine m).dispatched? = none ∧ (Kernel.ofMachine m').dispatched? = none ∨
      (Kernel.ofMachine m).dispatched? = some m ∧ (Kernel.ofMachine m').dispatched? = some m' := by
  by_cases hs : m.process.state = .new
  · have hs' : m'.process.state = .new := h.process hr ▸ hs
    exact .inl ⟨by simp [Kernel.dispatched?, Kernel.ofMachine, hs],
      by simp [Kernel.dispatched?, Kernel.ofMachine, hs']⟩
  · have hs' : m'.process.state ≠ .new := h.process hr ▸ hs
    exact .inr ⟨Kernel.dispatched?_ofMachine hs, Kernel.dispatched?_ofMachine hs'⟩

lemma kernel_cycle (h : Lockstep R) (hr : R m m') :
    Outcome.Related R (Kernel.ofMachine m).cycle (Kernel.ofMachine m').cycle := by
  rcases h.dispatched? hr with ⟨hd, hd'⟩ | ⟨hd, hd'⟩
  · rw [Kernel.cycle_of_not_dispatched hd, Kernel.cycle_of_not_dispatched hd']
    exact ⟨rfl, rfl, m, m', rfl, rfl, hr⟩
  · obtain ⟨hresult, hnext⟩ := h.turn hr
    simp only [Kernel.cycle, hd, hd']
    rcases ht : m.turn with ⟨r, m₁⟩
    rcases ht' : m'.turn with ⟨r', m₁'⟩
    rw [ht, ht'] at hresult hnext
    obtain rfl : r = r' := hresult
    rcases r with f | _ | c <;> exact ⟨rfl, rfl, m₁, m₁', rfl, rfl, hnext⟩

lemma kernel_run (h : Lockstep R) (hr : R m m') (limit : ℕ) :
    Option.Rel (Outcome.Related R) ((Kernel.ofMachine m).run limit)
      ((Kernel.ofMachine m').run limit) := by
  rcases h.dispatched? hr with ⟨hd, hd'⟩ | ⟨hd, hd'⟩
  · rw [Kernel.run_of_not_dispatched hd, Kernel.run_of_not_dispatched hd']
    exact .some ⟨rfl, rfl, m, m', rfl, rfl, hr⟩
  · have hbudget := h.budget hr
    have hcycles := h.cycles hr
    simp only [Kernel.run, hd, hd', hbudget]
    obtain ⟨hverdict, hdone, hend⟩ := h.advance (m'.config.budget.getD limit) hr #[]
    generalize m.advance (m'.config.budget.getD limit) #[] = st at hverdict hdone hend
    generalize m'.advance (m'.config.budget.getD limit) #[] = st' at hverdict hdone hend
    rw [hverdict, hdone]
    split
    · have hlast := h.withState .terminated hend
      rw [hcycles, h.cycles hlast, h.process hlast]
      exact .some ⟨rfl, rfl, _, _, rfl, rfl, hlast⟩
    · exact .some ⟨rfl, rfl, _, _, rfl, rfl, hend⟩
    · rcases m'.config.budget with _ | b
      · exact .none
      · exact .some ⟨rfl, rfl, _, _, rfl, rfl, hend⟩

/-- **Related machines answer a call in the same way.** -/
theorem answer (h : Lockstep R) (hr : R m m') (limit : ℕ) {call : Call}
    (hc : call.drives = true) :
    Option.Rel (Outcome.Related R) ((Kernel.ofMachine m).answer limit call)
      ((Kernel.ofMachine m').answer limit call) := by
  rcases Call.drives_iff.mp hc with rfl | rfl | rfl
  · have htrace : (Kernel.ofMachine m).dispatch.trace = (Kernel.ofMachine m').dispatch.trace := by
      simp only [Kernel.dispatch, Kernel.ofMachine, h.process hr]
    exact .some ⟨rfl, htrace, m.restart, m'.restart, rfl, rfl, h.restart hr⟩
  · exact .some (h.kernel_cycle hr).forget
  · have hrun := h.kernel_run hr limit
    simp only [Kernel.answer]
    generalize (Kernel.ofMachine m).run limit = x at hrun
    generalize (Kernel.ofMachine m').run limit = x' at hrun
    cases hrun with
    | some ho => exact .some ho.forget
    | none => exact .none

lemma answer_map (h : Lockstep R) {s s' : Kernel} (hs : s.Related R s') (limit : ℕ) {call : Call}
    (hc : call.drives = true) :
    (s.answer limit call).map (fun o => (o.result, o.trace)) =
      (s'.answer limit call).map fun o => (o.result, o.trace) := by
  obtain ⟨m, m', rfl, rfl, hr⟩ := hs
  have hanswer := h.answer hr limit hc
  generalize (Kernel.ofMachine m).answer limit call = x at hanswer
  generalize (Kernel.ofMachine m').answer limit call = x' at hanswer
  cases hanswer with
  | some ho => simp only [Option.map_some, ho.result, ho.trace]
  | none => rfl

/-- **Related machines go through the same histories.** -/
theorem history (h : Lockstep R) (hr : R m m') {calls : List Call} {trace : List Event} {s : Kernel}
    (hc : ∀ call ∈ calls, call.drives = true) (hh : History (.ofMachine m) calls trace s) :
    ∃ s', History (.ofMachine m') calls trace s' ∧ s.Related R s' := by
  -- Calls are added at the end, where the kernels that they meet are related.
  induction hh with
  | nil => exact ⟨_, .nil _, m, m', rfl, rfl, hr⟩
  | @snoc s₁ calls trace call o _ last ih =>
    simp only [List.mem_append, List.mem_singleton] at hc
    obtain ⟨s₁', hearlier, m₁, m₁', rfl, rfl, hr₁⟩ := ih fun d hd => hc d (.inl hd)
    obtain ⟨limit, hlast⟩ := last
    have hanswer := h.answer hr₁ limit (hc call (.inr rfl))
    rw [hlast] at hanswer
    generalize hx : (Kernel.ofMachine m₁').answer limit call = x at hanswer
    cases hanswer with
    | @some _ o' ho =>
      have hlater := History.snoc hearlier ⟨limit, hx⟩
      rw [← ho.trace] at hlater
      exact ⟨o'.kernel, hlater, ho.kernel⟩

end Lockstep

end CellMachine
