import CellMachine.Proofs.Dependence

/-!
How a word is spelled never matters. A cycle reads a cell as an instruction word or as a data
word, and writes a cell as a data word; so machines whose cells have the same readings make the
same cycles, and fail alike but for the text that a fault quotes.
-/

namespace CellMachine

def Cell.readings (c : Cell) : Option UInt32 × Option Int32 := (c.instructionWord?, c.dataWord?)

/-- The fault without the text that it quotes. -/
def Fault.quoteless : Fault → Fault
  | notAnInstruction index _ => notAnInstruction index ""
  | notData index _ => notData index ""
  | f => f

namespace Memory

variable {a b : Memory} {k : ℕ}

/-- Memories of one size whose cells have the same readings. -/
def Synonymous (a b : Memory) : Prop :=
  a.size = b.size ∧ ∀ k : ℕ, a.cells[k]?.map Cell.readings = b.cells[k]?.map Cell.readings

lemma synonymous_iff : Synonymous a b ↔ a.cells.map Cell.readings = b.cells.map Cell.readings := by
  constructor
  · rintro ⟨-, hcells⟩
    apply Array.ext_getElem?
    intro k
    rw [Array.getElem?_map, Array.getElem?_map, hcells k]
  · intro h
    refine ⟨by simpa [size] using congrArg Array.size h, fun k => ?_⟩
    rw [← Array.getElem?_map, ← Array.getElem?_map, h]

instance (a b : Memory) : Decidable (Synonymous a b) := decidable_of_iff _ synonymous_iff.symm

lemma Synonymous.cases (h : Synonymous a b) (k : ℕ) :
    (a.cells[k]? = none ∧ b.cells[k]? = none) ∨
      ∃ c d, a.cells[k]? = some c ∧ b.cells[k]? = some d ∧
        c.instructionWord? = d.instructionWord? ∧ c.dataWord? = d.dataWord? := by
  have hk := h.2 k
  rcases ha : a.cells[k]? with _ | c
  · rcases hb : b.cells[k]? with _ | d
    · exact .inl ⟨rfl, rfl⟩
    · simp [ha, hb] at hk
  · rcases hb : b.cells[k]? with _ | d
    · simp [ha, hb] at hk
    · have hreadings : c.readings = d.readings := by simpa [ha, hb] using hk
      exact .inr ⟨c, d, rfl, rfl, congrArg Prod.fst hreadings, congrArg Prod.snd hreadings⟩

lemma Synonymous.fault (h : Synonymous a b) (k : ℕ) : a.fault k = b.fault k := by
  simp only [Memory.fault, h.1]

lemma Synonymous.readWord (h : Synonymous a b) (k : ℕ) :
    Alike Fault.quoteless (a.readWord k) (b.readWord k) := by
  rcases h.cases k with ⟨ha, hb⟩ | ⟨c, d, ha, hb, -, hdata⟩
  · simp only [Memory.readWord, read, ha, hb, h.fault]
    exact .refl _
  · simp only [Memory.readWord, read, ha, hb, hdata]
    rcases d.dataWord? with _ | v
    · rfl
    · exact .refl _

lemma Synonymous.set (h : Synonymous a b) (index : ℕ) (c : Cell) :
    Synonymous ⟨a.cells.setIfInBounds index c⟩ ⟨b.cells.setIfInBounds index c⟩ := by
  have hsize : a.cells.size = b.cells.size := h.1
  refine ⟨by simpa [size] using hsize, fun k => ?_⟩
  by_cases hk : index = k
  · simp [Array.getElem?_setIfInBounds, hk, hsize]
  · simpa [Array.getElem?_setIfInBounds, hk] using h.2 k

end Memory

namespace Machine

variable {m m' : Machine}

/-- Machines that differ only in how the words in their memories are spelled. -/
structure Respelled (m m' : Machine) : Prop where
  processor : m.processor = m'.processor
  process : m.process = m'.process
  memory : m.memory.Synonymous m'.memory

lemma Respelled.load (h : Respelled m m') (w : UInt32) : Respelled (m.load w) (m'.load w) where
  processor := by simp only [Machine.load, withRegisters, registers, h.processor]
  process := h.process
  memory := h.memory

lemma Respelled.fetchedWord (h : Respelled m m') :
    Alike Fault.quoteless m.fetchedWord m'.fetchedWord := by
  unfold Machine.fetchedWord Memory.read
  rw [h.process]
  rcases h.memory.cases m'.process.counter with ⟨ha, hb⟩ | ⟨c, d, ha, hb, hword, -⟩
  · simp only [ha, hb, h.memory.fault]
    exact .refl _
  · simp only [ha, hb, hword]
    rcases d.instructionWord? with _ | w
    · rfl
    · exact .refl _

lemma Respelled.dataWord (h : Respelled m m') (i : Instruction) :
    Alike Fault.quoteless (m.dataWord i) (m'.dataWord i) := by
  have hindex : m.dataIndex i = m'.dataIndex i := by simp only [dataIndex, h.process]
  unfold Machine.dataWord
  rw [hindex]
  exact h.memory.readWord _

lemma Respelled.apply (h : Respelled m m') (e : Effect) : Respelled (m.apply e) (m'.apply e) where
  processor := processor_apply_congr h.processor e
  process := process_apply_congr h.process e
  memory := by
    cases e with
    | skip | setRegister | jump | halt => exact h.memory
    | store index v => exact h.memory.set index (.ofWord v)

lemma Respelled.tick (h : Respelled m m') : Respelled m.tick m'.tick where
  processor := by simp only [Machine.tick, h.processor]
  process := h.process
  memory := h.memory

lemma Respelled.cycle (h : Respelled m m') :
    Alike Fault.quoteless m.cycle.1 m'.cycle.1 ∧ Respelled m.cycle.2 m'.cycle.2 :=
  cycle_alike (congrArg ControlBlock.counter h.process) h.fetchedWord h (fun w _ => h.load w)
    (fun w _ => (indistinct_of_memory (h.load w).processor h.process h.memory.1
      ((h.load w).dataWord _)).plan)
    fun w e _ _ => ((h.load w).apply e).tick

/-- What comes of `n` cycles in a row, whether or not they complete, and the machine afterwards. -/
def attempts : ℕ → Machine → List (Except Fault Cycle) × Machine
  | 0, m => ([], m)
  | n + 1, m =>
    let (results, m') := attempts n m.cycle.2
    (m.cycle.1 :: results, m')

end Machine

/-- **How a word is spelled never matters.** Machines that differ only in spelling complete the
same cycles, and a cycle that fails in one of them fails in the other, with the same fault up to
the text that it quotes; their registers, processes and cycle counts stay equal, and so do the
readings of their cells. -/
theorem spelling_never_matters {m m' : Machine} (h : m.Respelled m') (n : ℕ) :
    (m.attempts n).1.map (Except.mapError Fault.quoteless) =
        (m'.attempts n).1.map (Except.mapError Fault.quoteless) ∧
      (m.attempts n).2.Respelled (m'.attempts n).2 := by
  induction n generalizing m m' with
  | zero => exact ⟨rfl, h⟩
  | succ n ih =>
    obtain ⟨hresult, hnext⟩ := h.cycle
    obtain ⟨hresults, hend⟩ := ih hnext
    exact ⟨congrArg₂ List.cons hresult hresults, hend⟩

/-- Two spellings of a program that loads a data word and then meets a cell that holds none. -/
theorem spelling_never_matters_decimal :
    let m : Machine := ⟨.init {}, ⟨0, 2, 2, .ready⟩,
      .ofLines ["0x4B010001", "0x4B010002", "data", "0x10", "ten"]⟩
    let m' : Machine := ⟨.init {}, ⟨0, 2, 2, .ready⟩,
      .ofLines ["1258356737", " +1258356738", "Data", "16", "zehn"]⟩
    m.Respelled m' ∧ (m.attempts 2).1 ≠ (m'.attempts 2).1 ∧
      (m.attempts 2).1.map (Except.mapError Fault.quoteless) =
        (m'.attempts 2).1.map (Except.mapError Fault.quoteless) ∧
      (m.attempts 2).2.Respelled (m'.attempts 2).2 := by
  intro m m'
  have h : m.Respelled m' := ⟨rfl, rfl, by decide +kernel⟩
  exact ⟨h, by decide +kernel, spelling_never_matters h 2⟩

end CellMachine
