import CellMachine.Proofs.Footprint

/-!
One program in two configurations. Two machines that hold the same program, and do not tell the
instructions of its code apart, go through the same histories, whatever their configurations are. So
of a switch that a program does not notice, only this is left to show: how its positions make the
registers differ, and that the code is planned alike all the same.
-/

namespace CellMachine

/-- A relation between register files that survives a fetch, a write and a reset. -/
structure Registers.Congruence (R : Registers → Registers → Prop) : Prop where
  load : ∀ {r r'} w, R r r' → R (r.load w) (r'.load w)
  set : ∀ {r r'} register v, R r r' → R (r.set register v) (r'.set register v)
  reset : ∀ {r r'}, R r r' → R r.reset r'.reset

lemma Registers.congruence_eq : Registers.Congruence Eq :=
  ⟨fun _ h => h ▸ rfl, fun _ _ h => h ▸ rfl, fun h => h ▸ rfl⟩

namespace Machine

variable {R : Registers → Registers → Prop} {C : Config → Config → Prop} {P : Machine → Prop}
  {m m' : Machine} {e : Effect} {w : UInt32}

/-! ### What a program is -/

lemma confined_of_memory (hframe : Frame m m') (hmemory : m'.memory = m.memory) : Confined m m' :=
  ⟨⟨hframe, fun _ _ => by rw [hmemory]⟩, fun _ => .inl (by rw [hmemory])⟩

/-- An effect of the code changes only cells that are stored to. -/
lemma confined_apply (hw : w ∈ m.codeWords) (hp : m.plan (.decode w) = .ok e) :
    Confined m (m.apply e) where
  code :=
    ⟨⟨boundary_apply m e, dataOffset_apply m e, config_apply m e, size_apply m e⟩,
      fun _ hk => cells_apply hp hk⟩
  cells k := by
    rcases cell_apply m e k with hkeep | ⟨v, rfl, hset⟩
    · exact .inl hkeep
    · obtain ⟨hstores, rfl⟩ := plan_store hp
      exact .inr ⟨mem_stored hw hstores, v, hset (plan_store_lt hp)⟩

def OfProgram (P : Machine → Prop) : Prop := ∀ {m m'}, m.Sealed → Confined m m' → P m → P m'

/-! ### Two machines with one program -/

/-- Machines with the same program, which has property `P`, with registers related by `R` and in
configurations related by `C`. -/
structure Paired (R : Registers → Registers → Prop) (C : Config → Config → Prop)
    (P : Machine → Prop) (m m' : Machine) : Prop where
  process : m.process = m'.process
  memory : m.memory = m'.memory
  cycles : m.processor.cycles = m'.processor.cycles
  registers : R m.registers m'.registers
  config : C m.config m'.config
  sealed : m.Sealed
  program : P m

namespace Paired

/-- What stays the same in both machines and changes no more than stores may keeps them paired. -/
lemma step (h : Paired R C P m m') (hP : OfProgram P) {n n' : Machine} (hn : Confined m n)
    (process : n.process = n'.process) (memory : n.memory = n'.memory)
    (cycles : n.processor.cycles = n'.processor.cycles) (registers : R n.registers n'.registers)
    (config : C n.config n'.config) : Paired R C P n n' :=
  ⟨process, memory, cycles, registers, config, hn.code.sealed h.sealed,
    hP h.sealed hn h.program⟩

lemma load (h : Paired R C P m m') (hR : Registers.Congruence R) (hP : OfProgram P) (w : UInt32) :
    Paired R C P (m.load w) (m'.load w) :=
  h.step hP (confined_of_memory ⟨rfl, rfl, rfl, rfl⟩ rfl) h.process h.memory h.cycles
    (hR.load w h.registers) h.config

lemma apply (h : Paired R C P m m') (hR : Registers.Congruence R) (hP : OfProgram P)
    (hw : w ∈ m.codeWords) (hp : m.plan (.decode w) = .ok e) :
    Paired R C P (m.apply e) (m'.apply e) := by
  have hmemory : (m.apply e).memory = (m'.apply e).memory := by
    cases e <;> simp [Machine.apply, next, withProcess, withRegisters, withMemory, h.memory]
  have hregisters : R (m.apply e).registers (m'.apply e).registers := by
    cases e with
    | skip | store | jump | halt => exact h.registers
    | setRegister register v => exact hR.set register v h.registers
  refine h.step hP (confined_apply hw hp) (process_apply_congr h.process e) hmemory ?_
    hregisters ?_
  · rw [cycles_apply, cycles_apply, h.cycles]
  · rw [config_apply, config_apply]
    exact h.config

lemma tick (h : Paired R C P m m') (hP : OfProgram P) : Paired R C P m.tick m'.tick :=
  h.step hP (confined_of_memory ⟨rfl, rfl, rfl, rfl⟩ rfl) h.process h.memory
    (congrArg (· + 1) h.cycles) h.registers h.config

lemma fetchedWord (h : Paired R C P m m') : m.fetchedWord = m'.fetchedWord := by
  simp only [Machine.fetchedWord, h.process, h.memory]

lemma dataWord (h : Paired R C P m m') (i : Instruction) : m.dataWord i = m'.dataWord i := by
  simp only [Machine.dataWord, dataIndex, h.process, h.memory]

/-- What is left to show of machines with the same program for them to plan an instruction alike. -/
lemma indistinct (h : Paired R C P m m') {i : Instruction}
    (reads : ∀ o, i.operation? = some o → ∀ operand ∈ o.reads i.address.isRegister,
      SameAt m m' i operand)
    (target : ∀ o, i.operation? = some o → o.isJump = true → m.jumpTarget i = m'.jumpTarget i)
    (halt : m.config.halt = m'.config.halt) : Indistinct id i m m' where
  reads := reads
  index := by simp only [dataIndex, h.process]
  size := by rw [h.memory]
  word := h.dataWord i ▸ .refl _
  target o ho hj := target o ho hj ▸ .refl _
  halt := halt

end Paired

/-- **Machines that do not tell their code apart make the same cycles.** -/
theorem lockstep_paired (hR : Registers.Congruence R) (hP : OfProgram P)
    (budget : ∀ {c c'}, C c c' → c.budget = c'.budget)
    (planned : ∀ {m m' w}, Paired R C P m m' → w ∈ m.codeWords →
      Indistinct id (.decode w) m m') : Lockstep (Paired R C P) where
  process h := h.process
  cycles h := h.cycles
  budget h := budget h.config
  withState state h :=
    h.step hP (confined_of_memory (frame_withState _ _) rfl)
      (congrArg (·.withState state) h.process) h.memory h.cycles h.registers h.config
  restart h :=
    h.step hP (confined_of_memory ⟨rfl, rfl, rfl, rfl⟩ rfl)
      (congrArg (fun p => (p.goto 0).withState .ready) h.process) h.memory rfl
      (hR.reset h.registers) h.config
  cycle {m m'} h hh := by
    have hcode : ∀ w, m.fetchedWord = .ok w → w ∈ (m.load w).codeWords := fun w hw =>
      mem_codeWords_of_fetched hh hw
    obtain ⟨hresult, hnext⟩ := cycle_alike (congrArg ControlBlock.counter h.process)
      (h.fetchedWord ▸ .refl _) h (fun w _ => h.load hR hP w)
      (fun w hw => (planned (h.load hR hP w) (hcode w hw)).plan)
      (fun w e hw hp => ((h.load hR hP w).apply hR hP (hcode w hw) hp).tick hP)
    exact ⟨hresult.eq_of_id, hnext⟩

end Machine

namespace Kernel

open Machine

variable {R : Registers → Registers → Prop} {C : Config → Config → Prop} {P : Machine → Prop}

/-- **One program goes through the same histories in two configurations** if they pair the machines
that are ready to run it, and what pairs machines keeps them in lockstep. -/
theorem history_paired (config config' : Config) {lines : List String} {calls : List Call}
    {trace : List Event} {s : Kernel} (hl : Lockstep (Paired R C P))
    (registers : R (.init config.slot) (.init config'.slot)) (configs : C config config')
    (program : P (readyMachine config lines))
    (hc : ∀ call ∈ calls, call.drives = true) (h : History (.ready config lines) calls trace s) :
    ∃ s', History (.ready config' lines) calls trace s' ∧
      s'.memory = s.memory ∧ s'.process = s.process ∧ s'.processor.cycles = s.processor.cycles ∧
      R s.processor.registers s'.processor.registers ∧
      ∀ limit call, call.drives = true →
        (s'.answer limit call).map (fun o => (o.result, o.trace)) =
          (s.answer limit call).map fun o => (o.result, o.trace) := by
  have hr : Paired R C P (readyMachine config lines) (readyMachine config' lines) :=
    ⟨rfl, rfl, rfl, registers, configs, sealed_readyMachine config lines, program⟩
  rw [ready_eq] at h ⊢
  obtain ⟨s', hh', m, m', rfl, rfl, hend⟩ := hl.history hr hc h
  exact ⟨_, hh', hend.memory.symm, congrArg some hend.process.symm, hend.cycles.symm,
    hend.registers, fun limit call hcall =>
      (hl.answer_map ⟨m, m', rfl, rfl, hend⟩ limit hcall).symm⟩

end Kernel

end CellMachine
