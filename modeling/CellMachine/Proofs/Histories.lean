import CellMachine.Kernel.Calls
import CellMachine.Proofs.Turns

/-!
What calls do to a kernel, in terms of turns. A cycle or a run of a dispatched process makes turns
that complete, and then comes back, halts, fails, or has used up its budget; without a dispatched
process it does nothing.
-/

namespace CellMachine

open Machine

namespace Machine

/-- What a cycle or a run answers and leaves, with the cycles that it completes. -/
inductive Leaves (m : Machine) : Except Failure Unit → Machine → List Cycle → Prop where
  | paused {m' : Machine} {c : Cycle} (turn : m.turn = (.ok (some c), m')) : Leaves m (.ok ()) m' [c]
  | halted {m' : Machine} {cs : List Cycle} (run : Turns m cs m')
    (halts : m'.process.isHalted = true) : Leaves m (.ok ()) (m'.withState .terminated) cs
  | failed {m' m'' : Machine} {cs : List Cycle} {f : Fault} (run : Turns m cs m')
    (turn : m'.turn = (.error f, m'')) : Leaves m (.error (.fault f)) m'' cs
  | exhausted {m' : Machine} {cs : List Cycle} (run : Turns m cs m')
    (budget : m.config.budget = some cs.length)
    (goes_on : m'.process.isHalted = false) : Leaves m (.error (.budgetExhausted cs.length)) m' cs

lemma Leaves.cycles {m m' : Machine} {r : Except Failure Unit} {cs : List Cycle}
    (h : Leaves m r m' cs) : m'.processor.cycles = m.processor.cycles + cs.length := by
  cases h with
  | paused turn => exact cycles_of_turn turn
  | halted run _ => exact run.cycles
  | failed run turn => rw [cycles_of_failed turn, run.cycles]
  | exhausted run _ _ => exact run.cycles

/-- Neither leaves a process that has not been dispatched. -/
lemma Leaves.state {m m' : Machine} {r : Except Failure Unit} {cs : List Cycle}
    (h : Leaves m r m' cs) (hm : m.process.state ≠ .new) : m'.process.state ≠ .new := by
  cases h with
  | paused turn => exact state_of_turn turn
  | halted run _ => simp [withState, withProcess, ControlBlock.withState]
  | failed run turn =>
    obtain ⟨-, -, rfl⟩ := turn_eq_error_iff.mp turn
    rw [process_afterFetch]
    simp [withState, withProcess, ControlBlock.withState]
  | exhausted run _ _ => exact (run.invariant (fun _ _ _ _ ht => ⟨trivial, state_of_turn ht⟩) hm).2

/-- What completed turns, changes of state and fetches preserve holds of what a cycle or a run
leaves, and so does what it implies for the cycles that are completed. -/
theorem Leaves.invariant {P : Machine → Prop} {Q : Cycle → Prop} {m m' : Machine}
    {r : Except Failure Unit} {cs : List Cycle}
    (step : ∀ m c m', P m → m.turn = (.ok (some c), m') → Q c ∧ P m')
    (state : ∀ m state, P m → P (m.withState state)) (fetch : ∀ m, P m → P m.afterFetch)
    (h : Leaves m r m' cs) (hm : P m) : P m' ∧ ∀ c ∈ cs, Q c := by
  cases h with
  | paused turn =>
    obtain ⟨hc, hm'⟩ := step _ _ _ hm turn
    exact ⟨hm', by simpa using hc⟩
  | halted run _ =>
    obtain ⟨hcs, hend⟩ := run.invariant step hm
    exact ⟨state _ _ hend, hcs⟩
  | failed run turn =>
    obtain ⟨hcs, hend⟩ := run.invariant step hm
    obtain ⟨-, -, rfl⟩ := turn_eq_error_iff.mp turn
    exact ⟨fetch _ (state _ _ hend), hcs⟩
  | exhausted run _ _ =>
    obtain ⟨hcs, hend⟩ := run.invariant step hm
    exact ⟨hend, hcs⟩

def restart (m : Machine) : Machine :=
  ⟨m.processor.reset, (m.process.goto 0).withState .ready, m.memory⟩

end Machine

namespace Kernel

variable {s : Kernel} {m : Machine} {call : Call} {o : Outcome Unit}

lemma dispatched?_eq_some_iff :
    s.dispatched? = some m ↔ m.process.state ≠ .new ∧ s = ofMachine m := by
  obtain ⟨processor, process, memory⟩ := s
  obtain ⟨processor', p', memory'⟩ := m
  rcases process with _ | p
  · simp [dispatched?, ofMachine]
  · simp only [dispatched?, ofMachine, mk.injEq, Option.some.injEq]
    split
    · next hp => grind
    · next hp => grind

lemma dispatched?_eq_none_iff :
    s.dispatched? = none ↔ s.process = none ∨ ∃ p, s.process = some p ∧ p.state = .new := by
  obtain ⟨processor, _ | p, memory⟩ := s <;> simp [dispatched?]

lemma cycle_of_not_dispatched (h : s.dispatched? = none) :
    s.cycle = ⟨.error .notScheduled, s, []⟩ := by
  simp only [cycle, h]

lemma run_of_not_dispatched (h : s.dispatched? = none) (limit : ℕ) :
    s.run limit = some ⟨.error .notScheduled, s, []⟩ := by
  simp only [run, h]

lemma ofMachine_inj {m' : Machine} (h : ofMachine m = ofMachine m') : m = m' := by
  obtain ⟨_, _, _⟩ := m
  obtain ⟨_, _, _⟩ := m'
  simpa [ofMachine] using h

lemma dispatched?_ofMachine (h : m.process.state ≠ .new) : (ofMachine m).dispatched? = some m :=
  dispatched?_eq_some_iff.mpr ⟨h, rfl⟩

lemma cycles_of_turns {m' : Machine} {cs : List Cycle} (h : s.dispatched? = some m)
    (run : Turns m cs m') : (ofMachine m').dispatched? = some m' ∧ s.Cycles cs (ofMachine m') := by
  induction run generalizing s with
  | nil m =>
    obtain ⟨hm, rfl⟩ := dispatched?_eq_some_iff.mp h
    exact ⟨h, .nil _⟩
  | @cons m m₁ m' c cs turn rest ih =>
    have hk : s.cycle.kernel = ofMachine m₁ := by simp [cycle, h, turn]
    have hd : (ofMachine m₁).dispatched? = some m₁ := dispatched?_ofMachine (state_of_turn turn)
    obtain ⟨hend, hrest⟩ := ih hd
    exact ⟨hend, .cons (by simp [cycle, h, turn]) (by rw [hk]; exact hrest)⟩

/-- **Inversion of a single cycle.** -/
theorem cycle_leaves (h : s.dispatched? = some m) :
    ∃ m' cs, Leaves m s.cycle.forget.result m' cs ∧ s.cycle.kernel = ofMachine m' ∧
      s.cycle.trace = cs.map .cycle := by
  rcases ht : m.turn with ⟨f | c?, m'⟩
  · refine ⟨m', [], ?_, by simp [cycle, h, ht], by simp [cycle, h, ht]⟩
    simpa [cycle, h, ht, Outcome.forget, Except.map] using .failed (.nil m) ht
  · rcases c? with _ | c
    · obtain ⟨hh, rfl⟩ := turn_eq_none ht
      refine ⟨m.withState .terminated, [], ?_, by simp [cycle, h, ht], by simp [cycle, h, ht]⟩
      simpa [cycle, h, ht, Outcome.forget, Except.map] using .halted (.nil m) hh
    · refine ⟨m', [c], ?_, by simp [cycle, h, ht], by simp [cycle, h, ht]⟩
      simpa [cycle, h, ht, Outcome.forget, Except.map] using .paused ht

/-- **Inversion of a run.** -/
theorem run_leaves {limit : ℕ} {o : Outcome Summary} (h : s.dispatched? = some m)
    (hr : s.run limit = some o) :
    ∃ m' cs, Leaves m o.forget.result m' cs ∧ o.kernel = ofMachine m' ∧
      (o.trace = cs.map .cycle ∨
        o.forget.result = .ok () ∧ ∃ n k, o.trace = cs.map .cycle ++ [.halted n k]) := by
  obtain ⟨cs, hcs, hends⟩ := advance_ends (m.config.budget.getD limit) m #[]
  simp only [run, h] at hr
  simp only [List.nil_append] at hcs
  generalize m.advance (m.config.budget.getD limit) #[] = st at hr hcs hends
  obtain ⟨verdict, m', cycles⟩ := st
  simp only at hr hcs hends
  cases hends with
  | halted run length halts =>
    simp only [Option.some.injEq] at hr
    subst hr
    exact ⟨_, cs, .halted run halts, rfl, .inr ⟨rfl, _, _, by rw [hcs]⟩⟩
  | failed run length turn =>
    simp only [Option.some.injEq] at hr
    subst hr
    exact ⟨_, cs, .failed run turn, rfl, .inl (by rw [hcs])⟩
  | pending run length goes_on =>
    rcases hb : m.config.budget with _ | b
    · simp [hb] at hr
    · simp only [hb, Option.map_some, Option.some.injEq, Option.getD_some] at hr length
      subst hr length
      exact ⟨_, cs, .exhausted run hb goes_on, rfl, .inl (by rw [hcs])⟩

/-- **Inversion of a call that works on the process.** -/
theorem answers_drive (hc : call = .cycle ∨ call = .run) (h : s.Answers call o) :
    (s.dispatched? = none ∧ o = ⟨.error .notScheduled, s, []⟩) ∨
      ∃ m m' cs, s.dispatched? = some m ∧ Leaves m o.result m' cs ∧ o.kernel = ofMachine m' ∧
        (o.trace = cs.map .cycle ∨ ∃ n k, o.trace = cs.map .cycle ++ [.halted n k]) := by
  obtain ⟨limit, h⟩ := h
  rcases hd : s.dispatched? with _ | m
  · left
    rcases hc with rfl | rfl
    · simpa [answer, cycle_of_not_dispatched hd, Outcome.forget, Except.map, eq_comm] using h
    · simpa [answer, run_of_not_dispatched hd, Outcome.forget, Except.map, eq_comm] using h
  · right
    rcases hc with rfl | rfl
    · obtain ⟨m', cs, hl, hk, ht⟩ := cycle_leaves hd
      obtain rfl : s.cycle.forget = o := by simpa [answer] using h
      exact ⟨m, m', cs, rfl, hl, hk, .inl ht⟩
    · obtain ⟨o', hr, rfl⟩ := Option.map_eq_some_iff.mp h
      obtain ⟨m', cs, hl, hk, ht⟩ := run_leaves hd hr
      exact ⟨m, m', cs, rfl, hl, hk, ht.imp id And.right⟩

end Kernel

/-! ### Histories -/

namespace Kernel

lemma history_cons {s s' : Kernel} {call : Call} {calls : List Call} {o : Outcome Unit}
    {trace : List Event} (first : s.Answers call o) (rest : History o.kernel calls trace s') :
    History s (call :: calls) (o.trace ++ trace) s' := by
  induction rest with
  | nil => simpa using History.snoc (.nil s) first
  | snoc _ last ih => simpa [List.append_assoc] using History.snoc ih last

/-- Calls that are computed make a history. -/
theorem history_of_answerAll {limit : ℕ} {s s' : Kernel} {calls : List Call} {trace : List Event}
    (h : s.answerAll limit calls = some (trace, s')) : History s calls trace s' := by
  induction calls generalizing s trace with
  | nil =>
    obtain ⟨rfl, rfl⟩ : [] = trace ∧ s = s' := by simpa [answerAll] using h
    exact .nil s
  | cons call calls ih =>
    obtain ⟨o, ho, h⟩ := Option.bind_eq_some_iff.mp h
    obtain ⟨⟨t, s₁⟩, hr, he⟩ := Option.map_eq_some_iff.mp h
    obtain ⟨rfl, rfl⟩ := Prod.mk.injEq .. ▸ he
    exact history_cons ⟨limit, ho⟩ (ih hr)

end Kernel

/-! ### Traces -/

lemma cyclesOf_append (t u : List Event) : cyclesOf (t ++ u) = cyclesOf t ++ cyclesOf u := by
  simp [cyclesOf]

lemma cyclesOf_map_cycle (cs : List Cycle) : cyclesOf (cs.map .cycle) = cs := by
  induction cs with
  | nil => rfl
  | cons c cs ih => simpa [cyclesOf, Event.cycle?] using ih

lemma count_map_cycle (cs : List Cycle) (n : ℕ) :
    (cs.map Event.cycle).foldl Event.count n = n + cs.length := by
  induction cs generalizing n with
  | nil => rfl
  | cons c cs ih =>
    simp only [List.map_cons, List.foldl_cons, Event.count, ih, List.length_cons]
    omega

lemma cyclesOf_driven {trace : List Event} {cs : List Cycle}
    (h : trace = cs.map .cycle ∨ ∃ n k, trace = cs.map .cycle ++ [.halted n k]) :
    cyclesOf trace = cs ∧ ∀ n, trace.foldl Event.count n = n + cs.length := by
  rcases h with rfl | ⟨a, k, rfl⟩
  · exact ⟨cyclesOf_map_cycle cs, count_map_cycle cs⟩
  · refine ⟨by rw [cyclesOf_append, cyclesOf_map_cycle]; simp [cyclesOf, Event.cycle?], fun n => ?_⟩
    rw [List.foldl_append, count_map_cycle]
    rfl

/-- Calls that do not work on the process report no cycle. -/
lemma cyclesOf_quiet {s : Kernel} {call : Call} {o : Outcome Unit}
    (hc : ¬(call = .cycle ∨ call = .run)) (h : s.Answers call o) : cyclesOf o.trace = [] := by
  obtain ⟨limit, hl⟩ := h
  cases call with
  | cycle => exact absurd (.inl rfl) hc
  | run => exact absurd (.inr rfl) hc
  | loadLines lines =>
    obtain rfl : _ = o := Option.some.inj hl
    rfl
  | load path contents =>
    obtain rfl : _ = o := Option.some.inj hl
    rcases contents with e | text <;> rfl
  | schedule =>
    obtain rfl : _ = o := Option.some.inj hl
    rfl
  | dispatch =>
    obtain rfl : _ = o := Option.some.inj hl
    rcases hp : s.process with _ | p <;>
      simp [cyclesOf, Outcome.forget, Kernel.dispatch, hp, Event.cycle?]

/-! ### Invariants of a process -/

lemma Call.drives_iff {call : Call} :
    call.drives = true ↔ call = .dispatch ∨ call = .cycle ∨ call = .run := by
  cases call <;> simp [Call.drives]

namespace Kernel

variable {P : Machine → Prop} {Q : CellMachine.Cycle → Prop} {m : Machine} {s : Kernel}
  {calls : List Call} {trace : List Event}

/-- **Invariants of a process.** What a dispatch, a cycle and a run preserve holds along all
histories of such calls, and so does what it implies for the cycles that are completed. -/
theorem driven_invariant (restart : ∀ m, P m → P m.restart)
    (leaves : ∀ m r m' cs, P m → Leaves m r m' cs → P m' ∧ ∀ c ∈ cs, Q c)
    (hc : ∀ call ∈ calls, call.drives = true) (h : History (ofMachine m) calls trace s) (hm : P m) :
    (∃ m', s = ofMachine m' ∧ P m') ∧ ∀ c ∈ cyclesOf trace, Q c := by
  -- Calls are added at the end, so the invariant is known of the machine that the last one meets.
  induction h with
  | nil => exact ⟨⟨m, rfl, hm⟩, by simp [cyclesOf]⟩
  | @snoc s' calls trace call o _ last ih =>
    simp only [List.mem_append, List.mem_singleton] at hc
    obtain ⟨⟨m₁, rfl, h₁⟩, hcs⟩ := ih fun d hd => hc d (.inl hd)
    rw [cyclesOf_append]
    rcases Call.drives_iff.mp (hc call (.inr rfl)) with rfl | hcall
    · rw [cyclesOf_quiet (by simp) last, List.append_nil]
      obtain ⟨limit, hl⟩ := last
      obtain rfl : _ = o := Option.some.inj hl
      exact ⟨⟨m₁.restart, rfl, restart m₁ h₁⟩, hcs⟩
    · rcases answers_drive hcall last with ⟨-, rfl⟩ | ⟨m₂, m', ds, hd, hl, hk, ht⟩
      · exact ⟨⟨m₁, rfl, h₁⟩, by simpa [cyclesOf] using hcs⟩
      · obtain ⟨-, he⟩ := dispatched?_eq_some_iff.mp hd
        obtain rfl := ofMachine_inj he
        obtain ⟨hm', hds⟩ := leaves m₁ _ m' ds h₁ hl
        refine ⟨⟨m', hk, hm'⟩, fun c hcm => ?_⟩
        rw [(cyclesOf_driven ht).1] at hcm
        exact (List.mem_append.mp hcm).elim (hcs c) (hds c)

/-- **Invariants of a program.** What survives all that leaves memory alone, and what completed
turns preserve, holds along all histories of such calls. -/
theorem program_invariant (quiet : ∀ m m', P m → Frame m m' → m'.memory = m.memory → P m')
    (step : ∀ m c m', P m → m.turn = (.ok (some c), m') → Q c ∧ P m')
    (hc : ∀ call ∈ calls, call.drives = true) (h : History (ofMachine m) calls trace s) (hm : P m) :
    (∃ m', s = ofMachine m' ∧ P m') ∧ ∀ c ∈ cyclesOf trace, Q c := by
  have hrestart : ∀ m, P m → P m.restart := fun m h₁ => quiet m _ h₁ ⟨rfl, rfl, rfl, rfl⟩ rfl
  have hstate : ∀ m state, P m → P (m.withState state) := fun m state h₁ =>
    quiet m _ h₁ (frame_withState m state) rfl
  have hfetch : ∀ m, P m → P m.afterFetch := fun m h₁ =>
    quiet m _ h₁ (frame_afterFetch m) (memory_afterFetch m)
  exact driven_invariant hrestart
    (fun m r m' cs h₁ hl => hl.invariant step hstate hfetch h₁) hc h hm

lemma state_of_history (hm : m.process.state ≠ .new) (hc : ∀ call ∈ calls, call.drives = true)
    (h : History (ofMachine m) calls trace s) :
    ∃ m', s = ofMachine m' ∧ m'.process.state ≠ .new :=
  (driven_invariant (Q := fun _ => True)
    (fun m _ => by simp [Machine.restart, ControlBlock.withState])
    (fun _ _ _ _ hs hl => ⟨hl.state hs, by simp⟩) hc h hm).1

/-- A dispatched process fails only by a turn or by its budget. -/
lemma failure_of_driven {call : Call} {o : Outcome Unit} {e : Failure} (hc : call.drives = true)
    (h : (ofMachine m).Answers call o) (hs : m.process.state ≠ .new) (he : o.result = .error e) :
    (∃ b, e = .budgetExhausted b) ∨
      ∃ m' m'' cs f, Turns m cs m' ∧ m'.turn = (.error f, m'') ∧ e = .fault f := by
  rcases Call.drives_iff.mp hc with rfl | hcall
  · obtain ⟨limit, hl⟩ := h
    obtain rfl : _ = o := Option.some.inj hl
    simp [Outcome.forget, dispatch, ofMachine, Except.map] at he
  · rcases answers_drive hcall h with ⟨hd, -⟩ | ⟨m₁, m', cs, hd, hl, -, -⟩
    · rw [dispatched?_ofMachine hs] at hd
      simp at hd
    · rw [dispatched?_ofMachine hs] at hd
      obtain rfl := Option.some.inj hd
      rw [he] at hl
      cases hl with
      | failed run turn => exact .inr ⟨_, _, _, _, run, turn, rfl⟩
      | exhausted => exact .inl ⟨_, rfl⟩

end Kernel

end CellMachine
