import CellMachine.Proofs.Histories

/-!
A failing cycle changes nothing but the instruction register. Executing an instruction is stopped
by its plan or not at all, before anything has changed; a cycle has at most fetched by then, and a
run that fails is at the machine that its completed cycles have left.
-/

namespace CellMachine

namespace Registers

variable (r : Registers) (w : UInt32)

lemma general_load_of_ne {k : Fin 16} (h : ¬(r.slot = .general ∧ k = shared)) :
    (r.load w).general[k] = r.general[k] := by
  unfold load
  split
  · next hs =>
    have hk : ¬(k : ℕ) = 2 := fun hk => h ⟨hs, Fin.ext hk⟩
    simp [shared, Ne.symm hk]
  · rfl

lemma dedicated_load_of_general (h : r.slot = .general) :
    (r.load w).dedicated = r.dedicated := by
  simp [load, h]

end Registers

namespace Machine

variable {m m' : Machine} {f : Fault}

lemma afterFetch_of_some {w : UInt32} (h : m.wordAtCounter? = some w) :
    m.afterFetch = m.load w := by
  simp [afterFetch, fetchedWord_eq_ok_iff.mpr h]

lemma afterFetch_of_none (h : m.wordAtCounter? = none) : m.afterFetch = m := by
  rcases hf : m.fetchedWord with f | w
  · simp [afterFetch, hf]
  · simp [fetchedWord_eq_ok_iff.mp hf] at h

structure FetchedAtMost (m m' : Machine) : Prop where
  memory : m'.memory = m.memory
  process : m'.process = m.process
  config : m'.config = m.config
  cycles : m'.processor.cycles = m.processor.cycles
  slot : m'.registers.slot = m.registers.slot
  general : ∀ k : Fin 16, ¬(m.registers.slot = .general ∧ k = Registers.shared) →
    m'.registers.general[k] = m.registers.general[k]
  dedicated : m.registers.slot = .general → m'.registers.dedicated = m.registers.dedicated
  fetched : ∀ w, m.wordAtCounter? = some w → m'.registers.instruction = w
  unfetched : m.wordAtCounter? = none → m' = m

lemma fetchedAtMost_afterFetch (m : Machine) : FetchedAtMost m m.afterFetch := by
  rcases h : m.wordAtCounter? with _ | w
  · rw [afterFetch_of_none h]
    exact ⟨rfl, rfl, rfl, rfl, rfl, fun _ _ => rfl, fun _ => rfl, by simp [h], fun _ => rfl⟩
  · rw [afterFetch_of_some h]
    refine ⟨rfl, rfl, rfl, rfl, Registers.slot_load _ _, fun k hk => ?_, fun hs => ?_, ?_, ?_⟩
    · exact Registers.general_load_of_ne _ _ hk
    · exact Registers.dedicated_load_of_general _ _ hs
    · rintro w' hw'
      obtain rfl : w = w' := by simpa [h] using hw'
      exact Registers.instruction_load _ _
    · simp [h]

/-- Executing is stopped by planning or not at all. -/
lemma perform_eq_error_iff (m : Machine) (i : Instruction) (f : Fault) :
    (m.perform i).1 = .error f ↔ m.plan i = .error f := by
  rw [perform_eq]
  rcases m.plan i with g | e <;> simp

lemma perform_of_error {i : Instruction} (h : m.plan i = .error f) :
    m.perform i = (.error f, m) := by
  rw [perform_eq, h]

end Machine

namespace Kernel

variable {s : Kernel}

/-- A run that fails has completed cycles, and failed in the turn after them. -/
lemma run_failed {limit : ℕ} {o : Outcome Summary} {f : Fault} (hr : s.run limit = some o)
    (hf : o.result = .error (.fault f)) :
    ∃ cs m m', s.Cycles cs (ofMachine m) ∧ (ofMachine m).dispatched? = some m ∧
      o.trace = cs.map .cycle ∧ m.turn = (.error f, m') ∧ o.kernel = ofMachine m' := by
  rcases hd : s.dispatched? with _ | m
  · rw [run_of_not_dispatched hd, Option.some.injEq] at hr
    simp [← hr] at hf
  · obtain ⟨m', cs, hl, hk, ht⟩ := run_leaves hd hr
    have hres : o.forget.result = .error (.fault f) := by simp [Outcome.forget, hf, Except.map]
    rw [hres] at hl
    cases hl with
    | @failed m₁ _ _ _ run turn =>
      obtain ⟨hd', hcs⟩ := cycles_of_turns hd run
      refine ⟨cs, m₁, m', hcs, hd', ?_, turn, hk⟩
      rcases ht with ht | ⟨hok, -⟩
      · exact ht
      · simp [hres] at hok

end Kernel

open Machine in
/-- **A failing cycle changes nothing but the instruction register**: for an instruction executed by
itself, for a cycle, and for a run that a cycle ends. -/
theorem failure_keeps_machine :
    (∀ (m : Machine) (i : Instruction),
      (∀ f, (m.perform i).1 = .error f ↔ m.plan i = .error f) ∧
      (∀ f, m.execute i = .error f ↔ m.plan i = .error f) ∧
      (∀ e, m.plan i = .ok e → (m.commit e).1 = .ok ()) ∧
      (∀ f, (m.perform i).1 = .error f → (m.perform i).2 = m)) ∧
    (∀ (m m' : Machine) (f : Fault), m.cycle = (.error f, m') → m.FetchedAtMost m') ∧
    (∀ (s : Kernel) (limit : ℕ) (o : Outcome Summary) (f : Fault),
      s.run limit = some o → o.result = .error (.fault f) →
      ∃ (cs : List Cycle) (m m' : Machine),
        s.Cycles cs (.ofMachine m) ∧ o.trace = cs.map .cycle ∧
        (Kernel.ofMachine m).cycle.result = .error (.fault f) ∧
        o.kernel = .ofMachine m' ∧ (m.withState .running).FetchedAtMost m') := by
  refine ⟨fun m i => ⟨perform_eq_error_iff m i, fun f => ?_, fun e he => ?_, fun f hf => ?_⟩,
    fun m m' f h => ?_, fun s limit o f hr hf => ?_⟩
  · rw [← perform_eq_error_iff, execute]
    rcases m.perform i with ⟨g | e, m'⟩ <;> simp
  · rw [commit_of_plan he]
  · rw [perform_of_error ((perform_eq_error_iff m i f).mp hf)]
  · obtain ⟨-, rfl⟩ := cycle_eq_error_iff.mp h
    exact fetchedAtMost_afterFetch m
  · obtain ⟨cs, m, m', hcs, hd, ht, hturn, hk⟩ := Kernel.run_failed hr hf
    obtain ⟨-, -, rfl⟩ := turn_eq_error_iff.mp hturn
    exact ⟨cs, m, _, hcs, ht, by simp [Kernel.cycle, hd, hturn], hk,
      fetchedAtMost_afterFetch _⟩

open Machine in
/-- A division of the instruction register by zero: executed by itself, in a cycle, and in a run
after a cycle that completes. Fetching has changed the dividend before it fails. -/
theorem failure_keeps_machine_division :
    let lines := ["0x93000000", "0x08213000"]
    let m : Machine := ⟨.init {}, ⟨1, 2, 2, .running⟩, .ofLines lines⟩
    let s := Kernel.ready { budget := some 5 } lines
    (m.perform (.decode 0x08213000)).1 = .error .divisionByZero ∧
      (m.perform (.decode 0x08213000)).2 = m ∧
      m.cycle.1 = .error .divisionByZero ∧ m.FetchedAtMost m.cycle.2 ∧
      m.cycle.2.processor.registers.general[2] = 0x08213000 ∧
      ∃ o cs m₁ m₂, s.run 0 = some o ∧ o.result = .error (.fault .divisionByZero) ∧
        s.Cycles cs (.ofMachine m₁) ∧ o.trace = cs.map .cycle ∧ cs.length = 1 ∧
        o.kernel = .ofMachine m₂ ∧ (m₁.withState .running).FetchedAtMost m₂ := by
  intro lines m s
  have hperform : (m.perform (.decode 0x08213000)).1 = .error .divisionByZero := by decide +kernel
  have hcycle : m.cycle.1 = .error .divisionByZero := by decide +kernel
  have hanswer : (s.run 0).map (fun o => (o.result, o.trace.length)) =
      some (.error (.fault .divisionByZero), 1) := by decide +kernel
  obtain ⟨o, hrun, ho⟩ := Option.map_eq_some_iff.mp hanswer
  obtain ⟨hresult, htrace⟩ := Prod.mk.inj ho
  obtain ⟨hexecute, hfetch, hruns⟩ := failure_keeps_machine
  obtain ⟨cs, m₁, m₂, hcycles, hcs, -, hkernel, hmost⟩ := hruns s 0 o _ hrun hresult
  refine ⟨hperform, (hexecute m _).2.2.2 _ hperform, hcycle, hfetch m _ _ (Prod.ext hcycle rfl),
    by decide +kernel, o, cs, m₁, m₂, hrun, hresult, hcycles, hcs, ?_, hkernel, hmost⟩
  rwa [hcs, List.length_map] at htrace

end CellMachine
