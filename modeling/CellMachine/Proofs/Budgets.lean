import CellMachine.Proofs.Histories

/-!
Budgets. No cycle looks at the budget; a run makes cycles until the process halts, one of them
fails, or as many as the budget allows have been completed. So a larger budget only lets a run go
on that the smaller one has cut short, and a run that was cut short goes on as if it had not been.
-/

namespace CellMachine

open Machine

def Processor.withBudget (p : Processor) (budget : Option ℕ) : Processor :=
  { p with config := { p.config with budget } }

/-- A run may take `n` cycles. -/
def Permits (budget : Option ℕ) (n : ℕ) : Prop := ∀ b, budget = some b → n ≤ b

section Permits

variable {budget : Option ℕ} {n limit : ℕ}

lemma permits_of_le (h : n ≤ budget.getD limit) : Permits budget n := by
  intro b hb
  simpa [hb] using h

lemma Permits.le (h : Permits budget n) (hl : n ≤ limit) : n ≤ budget.getD limit := by
  rcases hb : budget with _ | b
  · simpa using hl
  · simpa using h b hb

lemma Permits.add (h : Permits budget n) (k : ℕ) : Permits (budget.map (k + ·)) (k + n) := by
  intro b' hb'
  obtain ⟨b, hb, rfl⟩ := Option.map_eq_some_iff.mp hb'
  have hle := h b hb
  omega

end Permits

namespace Machine

variable {m m' : Machine} {cs : List Cycle} {n : ℕ} {v : Verdict} {budget : Option ℕ}

def withBudget (m : Machine) (budget : Option ℕ) : Machine :=
  { m with processor := m.processor.withBudget budget }

/-! ### Turns do not look at the budget -/

lemma planAs_withBudget (m : Machine) (budget : Option ℕ) (o : Operation) (i : Instruction) :
    (m.withBudget budget).planAs o i = m.planAs o i := by
  cases o <;> rfl

lemma plan_withBudget (m : Machine) (budget : Option ℕ) (i : Instruction) :
    (m.withBudget budget).plan i = m.plan i := by
  simp only [plan, planAs_withBudget]

lemma apply_withBudget (m : Machine) (budget : Option ℕ) (e : Effect) :
    (m.withBudget budget).apply e = (m.apply e).withBudget budget := by
  cases e <;> rfl

lemma cycle_withBudget (m : Machine) (budget : Option ℕ) :
    (m.withBudget budget).cycle = (m.cycle.1, m.cycle.2.withBudget budget) := by
  have hfetch : (m.withBudget budget).fetchedWord = m.fetchedWord := rfl
  have hload : ∀ w, (m.withBudget budget).load w = (m.load w).withBudget budget := fun _ => rfl
  rw [cycle_eq, cycle_eq, hfetch]
  rcases m.fetchedWord with f | w
  · rfl
  · simp only [hload, plan_withBudget, apply_withBudget]
    rcases (m.load w).plan (.decode w) with f | e <;> rfl

lemma settle_withBudget (m : Machine) (budget : Option ℕ) :
    (m.withBudget budget).settle = m.settle.withBudget budget := by
  have hprocess : (m.withBudget budget).process = m.process := rfl
  unfold settle
  rw [hprocess]
  split <;> rfl

lemma turn_withBudget (m : Machine) (budget : Option ℕ) :
    (m.withBudget budget).turn = (m.turn.1, m.turn.2.withBudget budget) := by
  have hprocess : (m.withBudget budget).process = m.process := rfl
  rcases hh : m.process.isHalted with _ | _
  · have hstate : (m.withBudget budget).withState .running =
        (m.withState .running).withBudget budget := rfl
    rw [turn_of_active hh, turn_of_active (hprocess ▸ hh), hstate, cycle_withBudget]
    rcases (m.withState .running).cycle with ⟨f | c, m'⟩
    · rfl
    · simp only [settle_withBudget]
  · rw [turn_of_halted hh, turn_of_halted (hprocess ▸ hh)]
    rfl

/-! ### Stretches are determined by how they end -/

lemma advance_of_turns (h : Turns m cs m') (n : ℕ) (done : Array Cycle) :
    advance (cs.length + n) m done = advance n m' (done ++ cs.toArray) := by
  induction h generalizing done with
  | nil => simp
  | @cons m m₁ m' c cs turn _ ih =>
    have hh : m.process.isHalted = false := (turn_eq_ok_iff.mp turn).1
    have hlength : (c :: cs).length + n = (cs.length + n) + 1 := by
      rw [List.length_cons]
      omega
    rw [hlength, advance, hh, turn]
    simp only [Bool.false_eq_true, if_false, ih]
    congr 1
    simp

lemma Turns.cycles_sub (h : Turns m cs m') :
    m'.processor.cycles - m.processor.cycles = cs.length := by
  have hcycles := h.cycles
  omega

/-- **A stretch ends in one way only.** -/
theorem advance_of_ends (h : Ends m n v m' cs) : advance n m #[] = ⟨v, m', cs.toArray⟩ := by
  cases h with
  | halted run length halts =>
    obtain ⟨k, rfl⟩ := Nat.exists_eq_add_of_le length
    rw [advance_of_turns run, advance_halted halts]
    simp
  | @failed m₁ _ _ _ run length turn =>
    obtain ⟨k, rfl⟩ := Nat.exists_eq_add_of_lt length
    have hh : m₁.process.isHalted = false := (turn_eq_error_iff.mp turn).1
    rw [Nat.add_assoc, advance_of_turns run, advance, hh, turn]
    simp
  | pending run length goes_on =>
    subst length
    have hstretch := advance_of_turns run 0 #[]
    rw [Nat.add_zero] at hstretch
    simp [hstretch, advance, goes_on]

end Machine

namespace Kernel

def budget (s : Kernel) : Option ℕ := s.processor.config.budget

def withBudget (s : Kernel) (budget : Option ℕ) : Kernel :=
  { s with processor := s.processor.withBudget budget }

variable {s s' s'' : Kernel} {m : Machine} {cs ds : List CellMachine.Cycle} {o : Outcome Summary}
  {budget budget' : Option ℕ}

/-! ### Consecutive cycles -/

lemma Cycles.append (h : s.Cycles cs s') (h' : s'.Cycles ds s'') : s.Cycles (cs ++ ds) s'' := by
  induction h with
  | nil => exact h'
  | cons first _ ih => exact .cons first (ih h')

lemma turns_of_cycles (h : s.Cycles cs s') (hd : s.dispatched? = some m) :
    ∃ m', s'.dispatched? = some m' ∧ s' = ofMachine m' ∧ Turns m cs m' := by
  induction h generalizing m with
  | nil s => exact ⟨m, hd, (dispatched?_eq_some_iff.mp hd).2, .nil m⟩
  | @cons s s' c cs first _ ih =>
    rcases ht : m.turn with ⟨f | c?, m₁⟩
    · simp [cycle, hd, ht] at first
    · rcases c? with _ | d
      · simp [cycle, hd, ht] at first
      · obtain rfl : d = c := by simpa [cycle, hd, ht] using first
        have hk : s.cycle.kernel = ofMachine m₁ := by simp [cycle, hd, ht]
        have hd₁ : s.cycle.kernel.dispatched? = some m₁ := by
          rw [hk]
          exact dispatched?_ofMachine (state_of_turn ht)
        obtain ⟨m', hd', he, run⟩ := ih hd₁
        exact ⟨m', hd', he, .cons ht run⟩

lemma dispatched?_withBudget (s : Kernel) (budget : Option ℕ) :
    (s.withBudget budget).dispatched? = s.dispatched?.map (·.withBudget budget) := by
  obtain ⟨processor, _ | p, memory⟩ := s
  · rfl
  · simp only [dispatched?, withBudget]
    split <;> rfl

lemma cycle_withBudget (s : Kernel) (budget : Option ℕ) :
    (s.withBudget budget).cycle =
      { s.cycle with kernel := s.cycle.kernel.withBudget budget } := by
  rcases hd : s.dispatched? with _ | m
  · simp [cycle, dispatched?_withBudget, hd]
  · simp only [cycle, dispatched?_withBudget, hd, Option.map_some, turn_withBudget]
    rcases m.turn with ⟨f | _ | c, m'⟩ <;> rfl

lemma Cycles.withBudget (h : s.Cycles cs s') (budget : Option ℕ) :
    (s.withBudget budget).Cycles cs (s'.withBudget budget) := by
  induction h with
  | nil => exact .nil _
  | cons first _ ih =>
    refine .cons ?_ ?_
    · rw [cycle_withBudget]
      exact first
    · rw [cycle_withBudget]
      exact ih

/-! ### Runs -/

section Runs

variable {m' m'' : Machine} {f : Fault} {limit : ℕ}

lemma run_of_halted (h : s.dispatched? = some m) (turns : Turns m cs m')
    (length : cs.length ≤ m.config.budget.getD limit) (halts : m'.process.isHalted = true) :
    s.run limit = some ⟨.ok ⟨cs.length, m'.process.counter, .terminated⟩,
      ofMachine (m'.withState .terminated),
      cs.map .cycle ++ [.halted cs.length m'.process.counter]⟩ := by
  have hstretch := advance_of_ends (.halted turns length halts)
  have hcount : (m'.withState .terminated).processor.cycles - m.processor.cycles = cs.length :=
    turns.cycles_sub
  simp only [run, h, hstretch, hcount]
  rfl

lemma run_of_failed (h : s.dispatched? = some m) (turns : Turns m cs m')
    (length : cs.length < m.config.budget.getD limit) (turn : m'.turn = (.error f, m'')) :
    s.run limit = some ⟨.error (.fault f), ofMachine m'', cs.map .cycle⟩ := by
  have hstretch := advance_of_ends (.failed turns length turn)
  simp only [run, h, hstretch]

lemma run_of_exhausted (h : s.dispatched? = some m) (turns : Turns m cs m')
    (used : m.config.budget = some cs.length) (goes_on : m'.process.isHalted = false) :
    s.run limit = some ⟨.error (.budgetExhausted cs.length), ofMachine m', cs.map .cycle⟩ := by
  have hstretch := advance_of_ends (.pending turns rfl goes_on)
  simp only [run, h, used, Option.getD_some, hstretch, Option.map_some]

/-- A run whose turns end with a halt takes as many cycles, and uses up every smaller budget. -/
lemma run_of_turns (h : s.dispatched? = some m) (turns : Turns m cs m')
    (halts : m'.process.isHalted = true) :
    (∀ limit, cs.length ≤ m.config.budget.getD limit →
      s.run limit = some ⟨.ok ⟨cs.length, m'.process.counter, .terminated⟩,
        ofMachine (m'.withState .terminated),
        cs.map .cycle ++ [.halted cs.length m'.process.counter]⟩) ∧
    ∀ b < cs.length, m.config.budget = some b → ∀ limit,
      ∃ o, s.run limit = some o ∧ o.result = .error (.budgetExhausted b) := by
  refine ⟨fun limit length => run_of_halted h turns length halts, fun b hb used limit => ?_⟩
  obtain ⟨m₁, run, goes_on⟩ := turns.stop_short hb
  have hlength : (cs.take b).length = b := by
    rw [List.length_take]
    omega
  refine ⟨_, run_of_exhausted h run (by rw [used, hlength]) goes_on, ?_⟩
  rw [hlength]

lemma cycle_of_failed (h : s.dispatched? = some m) (turn : m.turn = (.error f, m')) :
    s.cycle = ⟨.error (.fault f), ofMachine m', []⟩ := by
  simp only [cycle, h, turn]

end Runs

/-- What calling `cycle` amounts to, again and again, until the process has halted, a call has
failed, or the budget has been used up. A halted process completes no cycle, so the first case is
about the fewest cycles after which it has halted. -/
inductive Iterates (budget : Option ℕ) (s : Kernel) : Outcome Summary → Prop where
  | halted {s' : Kernel} {p : ControlBlock} {cs : List CellMachine.Cycle} (cycles : s.Cycles cs s')
    (permits : Permits budget cs.length) (process : s'.process = some p)
    (halts : p.isHalted = true) :
    Iterates budget s ⟨.ok ⟨cs.length, p.counter, .terminated⟩,
      { s' with process := some (p.withState .terminated) },
      cs.map .cycle ++ [.halted cs.length p.counter]⟩
  | failed {s' : Kernel} {cs : List CellMachine.Cycle} {e : Failure} (cycles : s.Cycles cs s')
    (permits : Permits budget (cs.length + 1)) (fails : s'.cycle.result = .error e) :
    Iterates budget s ⟨.error e, s'.cycle.kernel, cs.map .cycle⟩
  | exhausted {s' : Kernel} {cs : List CellMachine.Cycle} (cycles : s.Cycles cs s')
    (used : budget = some cs.length) (goes_on : s'.isHalted = false) :
    Iterates budget s ⟨.error (.budgetExhausted cs.length), s', cs.map .cycle⟩

def Returns (s : Kernel) (o : Outcome Summary) : Prop := ∃ limit, s.run limit = some o

lemma budget_of_dispatched (h : s.dispatched? = some m) : s.budget = m.config.budget := by
  obtain ⟨-, rfl⟩ := dispatched?_eq_some_iff.mp h
  rfl

/-- A run that comes back has iterated `cycle`. -/
theorem iterates_of_run {limit : ℕ} (h : s.dispatched? = some m) (hr : s.run limit = some o) :
    s.Iterates s.budget o := by
  rw [budget_of_dispatched h]
  obtain ⟨cs, -, hends⟩ := advance_ends (m.config.budget.getD limit) m #[]
  generalize (m.advance (m.config.budget.getD limit) #[]).verdict = v at hends
  generalize (m.advance (m.config.budget.getD limit) #[]).machine = m' at hends
  cases hends with
  | halted turns length halts =>
    obtain ⟨-, hcycles⟩ := cycles_of_turns h turns
    rw [run_of_halted h turns length halts, Option.some.injEq] at hr
    subst hr
    exact .halted hcycles (permits_of_le length) rfl halts
  | failed turns length turn =>
    obtain ⟨hd, hcycles⟩ := cycles_of_turns h turns
    have hcycle := cycle_of_failed hd turn
    rw [run_of_failed h turns length turn, Option.some.injEq] at hr
    subst hr
    have hiter := Iterates.failed hcycles (permits_of_le length) (by rw [hcycle])
    rwa [hcycle] at hiter
  | pending turns length goes_on =>
    obtain ⟨-, hcycles⟩ := cycles_of_turns h turns
    rcases hb : m.config.budget with _ | b
    · -- Without a budget the run has been given up.
      have hstretch := advance_of_ends (.pending turns length goes_on)
      rw [hb, Option.getD_none] at hstretch
      simp only [run, h, hb, Option.getD_none, hstretch, Option.map_none, reduceCtorEq] at hr
    · rw [hb, Option.getD_some] at length
      subst length
      rw [run_of_exhausted h turns hb goes_on, Option.some.injEq] at hr
      subst hr
      exact .exhausted hcycles rfl goes_on

/-- What iterating `cycle` amounts to is what the run comes back with, if it is followed for long
enough. -/
theorem run_of_iterates (h : s.dispatched? = some m) (hi : s.Iterates s.budget o) :
    ∃ n, ∀ limit ≥ n, s.run limit = some o := by
  rw [budget_of_dispatched h] at hi
  cases hi with
  | @halted s' p cs cycles permits process halts =>
    obtain ⟨m', -, rfl, turns⟩ := turns_of_cycles cycles h
    obtain rfl : m'.process = p := Option.some.inj process
    exact ⟨cs.length, fun limit hl => run_of_halted h turns (permits.le hl) halts⟩
  | @failed s' cs e cycles permits fails =>
    obtain ⟨m', hd, rfl, turns⟩ := turns_of_cycles cycles h
    rcases ht : m'.turn with ⟨f | c?, m''⟩
    · have hcycle := cycle_of_failed hd ht
      rw [hcycle] at fails ⊢
      obtain rfl : Failure.fault f = e := Except.error.inj fails
      exact ⟨cs.length + 1, fun limit hl => run_of_failed h turns (permits.le hl) ht⟩
    · rcases c? with _ | c <;> simp [cycle, hd, ht] at fails
  | @exhausted s' cs cycles used goes_on =>
    obtain ⟨m', -, rfl, turns⟩ := turns_of_cycles cycles h
    exact ⟨0, fun limit _ => run_of_exhausted h turns used goes_on⟩

/-- With a budget, a run comes back whatever the limit is. -/
lemma run_of_budget {b : ℕ} (h : s.dispatched? = some m) (hb : s.budget = some b) :
    ∃ o, ∀ limit, s.run limit = some o := by
  rw [budget_of_dispatched h] at hb
  have hsome : ∀ limit, s.run limit = s.run 0 := by
    intro limit
    simp only [run, h, hb]
    rfl
  rcases ho : s.run 0 with _ | o
  · simp only [run, h, hb] at ho
    split at ho <;> simp at ho
  · exact ⟨o, fun limit => (hsome limit).trans ho⟩

end Kernel

/-! ### Other budgets -/

namespace Outcome

def withBudget {α : Type} (o : Outcome α) (budget : Option ℕ) : Outcome α :=
  { o with kernel := o.kernel.withBudget budget }

end Outcome

/-- A halt after `k` more cycles. -/
def Event.delay (k : ℕ) : Event → Event
  | halted cycles counter => halted (k + cycles) counter
  | e => e

def resumedResult (k : ℕ) : Except Failure Summary → Except Failure Summary
  | .ok summary => .ok { summary with cycles := k + summary.cycles }
  | .error (.budgetExhausted b) => .error (.budgetExhausted (k + b))
  | .error e => .error e

/-- The outcome of a run that has completed `k` cycles before, with what was reported of these. -/
def Outcome.resumed (o : Outcome Summary) (k : ℕ) (earlier : List Event) : Outcome Summary :=
  ⟨resumedResult k o.result, o.kernel, earlier ++ o.trace.map (.delay k)⟩

namespace Kernel

variable {s s' s'' : Kernel} {m : Machine} {cs ds : List CellMachine.Cycle}
  {o o₁ o₂ : Outcome Summary} {budget budget' : Option ℕ}

/-- A budget that permits more changes nothing but how a run ends that has used up the smaller
one. -/
lemma Iterates.raise (h : s.Iterates budget o) (hb : ∀ n, Permits budget n → Permits budget' n)
    (ho : ∀ b, o.result ≠ .error (.budgetExhausted b)) :
    (s.withBudget budget').Iterates budget' (o.withBudget budget') := by
  cases h with
  | halted cycles permits process halts =>
    exact .halted (cycles.withBudget budget') (hb _ permits) process halts
  | @failed s' cs e cycles permits fails =>
    have hcycle := cycle_withBudget s' budget'
    have hiter := Iterates.failed (cycles.withBudget budget') (hb _ permits) (by rwa [hcycle])
    rwa [hcycle] at hiter
  | exhausted => exact absurd rfl (ho _)

lemma map_delay_cycle (k : ℕ) (cs : List CellMachine.Cycle) :
    cs.map (Event.delay k ∘ Event.cycle) = cs.map .cycle := by
  simp [Event.delay, Function.comp_def]

/-- No call of `cycle` uses up a budget. -/
lemma cycle_result_ne (s : Kernel) (b : ℕ) : s.cycle.result ≠ .error (.budgetExhausted b) := by
  rcases hd : s.dispatched? with _ | m
  · simp [cycle, hd]
  · rcases ht : m.turn with ⟨f | _ | c, m'⟩ <;> simp [cycle, hd, ht]

lemma resumedResult_of_cycle {k : ℕ} {e : Failure} (h : s.cycle.result = .error e) :
    resumedResult k (.error e) = .error e := by
  cases e with
  | budgetExhausted b => exact absurd h (cycle_result_ne s b)
  | fault | unloadable | notScheduled => rfl

/-- Iterating `cycle` goes on where it has been cut short. -/
lemma Iterates.resume (h : s.Cycles cs s') (h' : (s'.withBudget budget).Iterates budget o) :
    (s.withBudget (budget.map (cs.length + ·))).Iterates (budget.map (cs.length + ·))
      ((o.resumed cs.length (cs.map .cycle)).withBudget (budget.map (cs.length + ·))) := by
  set total := budget.map (cs.length + ·) with htotal
  -- The later cycles start from what the earlier ones leave under the sum of the budgets.
  have happend : ∀ {ds s''}, (s'.withBudget budget).Cycles ds s'' →
      (s.withBudget total).Cycles (cs ++ ds) (s''.withBudget total) := fun hd =>
    (h.withBudget total).append (hd.withBudget total)
  have hpermits : ∀ {n}, Permits budget n → Permits total (cs.length + n) := fun hp => hp.add _
  cases h' with
  | @halted s'' p ds cycles permits process halts =>
    have hmore : Permits total (cs ++ ds).length := by
      rw [List.length_append]
      exact hpermits permits
    have hiter := Iterates.halted (happend cycles) hmore process halts
    simpa [Outcome.resumed, Outcome.withBudget, Kernel.withBudget, resumedResult, Event.delay,
      map_delay_cycle] using hiter
  | @failed s'' ds e cycles permits fails =>
    have hcycle := cycle_withBudget s'' total
    have hmore : Permits total ((cs ++ ds).length + 1) := by
      rw [List.length_append]
      exact hpermits permits
    have hiter := Iterates.failed (happend cycles) hmore (by rwa [hcycle])
    rw [hcycle] at hiter
    simpa [Outcome.resumed, Outcome.withBudget, resumedResult_of_cycle fails,
      map_delay_cycle] using hiter
  | @exhausted s'' ds cycles used goes_on =>
    have hused : total = some (cs ++ ds).length := by
      rw [htotal, used, Option.map_some, List.length_append]
    have hiter := Iterates.exhausted (happend cycles) hused goes_on
    simpa [Outcome.resumed, Outcome.withBudget, resumedResult, map_delay_cycle] using hiter

lemma dispatched_withBudget (h : s.dispatched? ≠ none) (budget : Option ℕ) :
    ∃ m, (s.withBudget budget).dispatched? = some m := by
  obtain ⟨m, hm⟩ := Option.ne_none_iff_exists'.mp h
  exact ⟨m.withBudget budget, by rw [dispatched?_withBudget, hm, Option.map_some]⟩

lemma returns_of_iterates (h : s.dispatched? ≠ none)
    (hi : (s.withBudget budget).Iterates budget o) : (s.withBudget budget).Returns o := by
  obtain ⟨m, hm⟩ := dispatched_withBudget h budget
  obtain ⟨n, hn⟩ := run_of_iterates hm hi
  exact ⟨n, hn n le_rfl⟩

lemma iterates_of_returns (h : s.dispatched? ≠ none) (hr : (s.withBudget budget).Returns o) :
    (s.withBudget budget).Iterates budget o := by
  obtain ⟨m, hm⟩ := dispatched_withBudget h budget
  obtain ⟨limit, hr⟩ := hr
  exact iterates_of_run hm hr

lemma returns_withBudget (h : s.dispatched? = some m) (hr : s.Returns o)
    (ho : ∀ b, o.result ≠ .error (.budgetExhausted b))
    (hb : ∀ n, Permits s.budget n → Permits budget n) :
    (s.withBudget budget).Returns (o.withBudget budget) := by
  obtain ⟨limit, hr⟩ := hr
  have hiter := (iterates_of_run h hr).raise hb ho
  exact returns_of_iterates (by simp [h]) hiter

lemma returns_resumed {b₁ : ℕ} (h : s.dispatched? = some m) (hr₁ : s.Returns o₁)
    (ho₁ : o₁.result = .error (.budgetExhausted b₁))
    (hr₂ : (o₁.kernel.withBudget budget).Returns o₂) :
    (s.withBudget (budget.map (b₁ + ·))).Returns
      ((o₂.resumed b₁ o₁.trace).withBudget (budget.map (b₁ + ·))) := by
  obtain ⟨limit, hr₁⟩ := hr₁
  have hiter := iterates_of_run h hr₁
  cases hiter with
  | halted => simp at ho₁
  | failed cycles permits fails =>
    rw [Except.error.inj ho₁] at fails
    exact absurd fails (cycle_result_ne _ _)
  | @exhausted s' cs cycles used goes_on =>
    obtain rfl : cs.length = b₁ := by simpa using ho₁
    obtain ⟨m', hd, -⟩ := turns_of_cycles cycles h
    have hlater := iterates_of_returns (by simp [hd]) hr₂
    exact returns_of_iterates (by simp [h]) (Iterates.resume cycles hlater)

end Kernel

open Kernel

/-- **A run is cycles made one after another, as many as the budget allows.** It halts after the
fewest cycles after which the process has halted, fails with the first of them that fails, or uses
up the budget; with a budget it always comes back. Hence a budget that permits more, or none,
changes no run but one that was cut short; and going on with a run that was cut short amounts to
one run with the sum of the budgets. -/
theorem run_iterates_cycle {s : Kernel} (h : s.dispatched? ≠ none) :
    (∀ limit o, s.run limit = some o → s.Iterates s.budget o) ∧
      (∀ o, s.Iterates s.budget o → ∃ n, ∀ limit ≥ n, s.run limit = some o) ∧
      (∀ b, s.budget = some b → ∃ o, ∀ limit, s.run limit = some o) ∧
      (∀ o budget, s.Returns o → (∀ b, o.result ≠ .error (.budgetExhausted b)) →
        (∀ n, Permits s.budget n → Permits budget n) →
        (s.withBudget budget).Returns (o.withBudget budget)) ∧
      ∀ o₁ b₁ o₂ budget, s.Returns o₁ → o₁.result = .error (.budgetExhausted b₁) →
        (o₁.kernel.withBudget budget).Returns o₂ →
        (s.withBudget (budget.map (b₁ + ·))).Returns
          ((o₂.resumed b₁ o₁.trace).withBudget (budget.map (b₁ + ·))) := by
  obtain ⟨m, hm⟩ := Option.ne_none_iff_exists'.mp h
  refine ⟨?_, ?_, ?_, ?_, ?_⟩
  · exact fun limit o hr => iterates_of_run hm hr
  · exact fun o hi => run_of_iterates hm hi
  · exact fun b hb => run_of_budget hm hb
  · exact fun o budget hr ho hb => returns_withBudget hm hr ho hb
  · exact fun o₁ b₁ o₂ budget hr₁ ho₁ hr₂ => returns_resumed hm hr₁ ho₁ hr₂

/-- Three instructions that do nothing, run for two cycles, then for at most two more; at once for
at most four; and without a budget. -/
theorem run_iterates_cycle_resumed :
    let s := ready { budget := some 2 } ["0x93000000", "0x93000000", "0x93000000"]
    ∃ o₁ o₂, s.Returns o₁ ∧ o₁.result = .error (.budgetExhausted 2) ∧
      (o₁.kernel.withBudget (some 2)).Returns o₂ ∧ o₂.result = .ok ⟨1, 3, .terminated⟩ ∧
      (s.withBudget (some 4)).Returns ((o₂.resumed 2 o₁.trace).withBudget (some 4)) ∧
      (s.withBudget none).Returns
        (((o₂.resumed 2 o₁.trace).withBudget (some 4)).withBudget none) := by
  intro s
  have hboth : ((s.run 0).bind fun o₁ => ((o₁.kernel.withBudget (some 2)).run 0).map fun o₂ =>
      (o₁.result, o₂.result)) =
      some (.error (.budgetExhausted 2), .ok ⟨1, 3, .terminated⟩) := by
    decide +kernel
  obtain ⟨o₁, h₁, hboth⟩ := Option.bind_eq_some_iff.mp hboth
  obtain ⟨o₂, h₂, hresults⟩ := Option.map_eq_some_iff.mp hboth
  obtain ⟨hr₁, hr₂⟩ := Prod.mk.inj hresults
  obtain ⟨-, -, -, -, resume⟩ := run_iterates_cycle (s := s) (by decide +kernel)
  obtain ⟨-, -, -, raise, -⟩ := run_iterates_cycle (s := s.withBudget (some 4)) (by decide +kernel)
  have hfour := resume o₁ 2 o₂ (some 2) ⟨0, h₁⟩ hr₁ ⟨0, h₂⟩
  have hok : ∀ b, ((o₂.resumed 2 o₁.trace).withBudget (some 4)).result ≠
      .error (.budgetExhausted b) := by
    simp [Outcome.resumed, Outcome.withBudget, hr₂, resumedResult]
  have hnone := raise _ none hfour hok (by simp [Permits])
  exact ⟨o₁, o₂, ⟨0, h₁⟩, hr₁, ⟨0, h₂⟩, hr₂, hfour, hnone⟩

end CellMachine
