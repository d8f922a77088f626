import CellMachine.Proofs.CodeIntegrity
import CellMachine.Proofs.Dependence
import CellMachine.Proofs.Lockstep

/-!
The footprint of a program. No operation computes an address from a register, and code is never
modified; so the address fields of the code name all cells beyond the boundary that a run can
read, and those of its stores all cells that it can change. What the other cells hold does not
matter.
-/

namespace CellMachine

/-- A store to memory: its address field is not zero. -/
def Instruction.stores (i : Instruction) : Bool :=
  match i.operation? with
  | some o => o.isStore && !i.address.isRegister
  | none => false

namespace Machine

variable {m m' m₁ m₂ : Machine} {i : Instruction} {e : Effect} {c : Cycle} {w : UInt32} {k : ℕ}

def codeWords (m : Machine) : List UInt32 :=
  (m.memory.cells.toList.take m.process.boundary).filterMap Cell.instructionWord?

/-- The cells that the address fields of the code name. -/
def named (m : Machine) : List ℕ := m.codeWords.map fun w => m.dataIndex (.decode w)

/-- The cells that the address fields of stores name. -/
def stored (m : Machine) : List ℕ :=
  (m.codeWords.filter fun w => (Instruction.decode w).stores).map fun w => m.dataIndex (.decode w)

lemma mem_codeWords_of_fetched (hh : m.process.isHalted = false) (h : m.fetchedWord = .ok w) :
    w ∈ m.codeWords := by
  have hlt := ControlBlock.isHalted_eq_false_iff.mp hh
  obtain ⟨cell, hcell, hword⟩ := Option.bind_eq_some_iff.mp (fetchedWord_eq_ok_iff.mp h)
  refine List.mem_filterMap.mpr ⟨cell, List.mem_iff_getElem?.mpr ⟨m.process.counter, ?_⟩, hword⟩
  rw [List.getElem?_take_of_lt hlt, Array.getElem?_toList]
  exact hcell

lemma codeWords_congr (boundary : m'.process.boundary = m.process.boundary)
    (cells : ∀ k < m.process.boundary, m'.memory.cells[k]? = m.memory.cells[k]?) :
    m'.codeWords = m.codeWords := by
  unfold codeWords
  rw [boundary]
  congr 1
  apply List.ext_getElem?
  intro k
  rcases lt_or_ge k m.process.boundary with hk | hk
  · rw [List.getElem?_take_of_lt hk, List.getElem?_take_of_lt hk, Array.getElem?_toList,
      Array.getElem?_toList, cells k hk]
  · rw [List.getElem?_take_eq_none hk, List.getElem?_take_eq_none hk]

/-- The code and the data offset determine which cells are named, and which are stored to. -/
lemma named_congr (words : m'.codeWords = m.codeWords)
    (offset : m'.process.dataOffset = m.process.dataOffset) :
    m'.named = m.named ∧ m'.stored = m.stored := by
  simp only [named, stored, dataIndex, words, offset, and_self]

lemma named_of_stored (h : k ∈ m.stored) : k ∈ m.named := by
  obtain ⟨w, hw, rfl⟩ := List.mem_map.mp h
  exact List.mem_map.mpr ⟨w, (List.mem_filter.mp hw).1, rfl⟩

lemma mem_stored (hw : w ∈ m.codeWords) (hs : (Instruction.decode w).stores = true) :
    m.dataIndex (.decode w) ∈ m.stored :=
  List.mem_map.mpr ⟨w, List.mem_filter.mpr ⟨hw, hs⟩, rfl⟩

lemma plan_store {v : Int32} (h : m.plan i = .ok (.store k v)) :
    i.stores = true ∧ k = m.dataIndex i := by
  cases plan_cases h with
  | store v operation address inside =>
    obtain ⟨o, ho, hstore⟩ := operation
    exact ⟨by simp [Instruction.stores, ho, hstore, address], rfl⟩

/-- An effect changes one cell at most, and writes a data word into it. -/
lemma cell_apply (m : Machine) (e : Effect) (k : ℕ) :
    (m.apply e).memory.cells[k]? = m.memory.cells[k]? ∨
      ∃ v, e = .store k v ∧
        (k < m.memory.size → (m.apply e).memory.cells[k]? = some (.ofWord v)) := by
  cases e with
  | skip | setRegister | jump | halt => exact .inl rfl
  | store index v =>
    by_cases hk : index = k
    · subst hk
      refine .inr ⟨v, rfl, fun hlt => ?_⟩
      have hlt : index < m.memory.cells.size := hlt
      simp [apply, next, withProcess, withMemory, hlt]
    · left
      simp [apply, next, withProcess, withMemory, hk]

/-! ### What a run changes -/

structure Confined (m m' : Machine) : Prop where
  code : SameCode m m'
  cells : ∀ k : ℕ, m'.memory.cells[k]? = m.memory.cells[k]? ∨
    k ∈ m.stored ∧ ∃ v, m'.memory.cells[k]? = some (.ofWord v)

lemma Confined.refl (m : Machine) : Confined m m := ⟨.refl m, fun _ => .inl rfl⟩

lemma SameCode.codeWords (h : SameCode m m') (hm : m.Sealed) : m'.codeWords = m.codeWords :=
  codeWords_congr h.frame.boundary fun k hk => h.cells k (by rw [hm.dataOffset]; exact hk.le)

/-- A completed turn stores where the code says. -/
lemma SameCode.stored_of_turn (h : SameCode m m₁) (hm : m.Sealed)
    (ht : m₁.turn = (.ok (some c), m₂)) {v : Int32} (he : c.effect = .store k v) :
    k ∈ m.stored := by
  obtain ⟨hh, m', hc, -⟩ := turn_eq_ok_iff.mp ht
  have hplan := hc.planned
  rw [he, hc.decoded] at hplan
  obtain ⟨hstores, rfl⟩ := plan_store hplan
  have hw : c.word ∈ m₁.codeWords := mem_codeWords_of_fetched hh hc.fetched
  rw [← (named_congr (h.codeWords hm) h.frame.dataOffset).2]
  exact mem_stored hw hstores

/-- **A completed turn changes only cells that are stored to.** -/
lemma Confined.turn (h : Confined m m₁) (hm : m.Sealed) (ht : m₁.turn = (.ok (some c), m₂)) :
    (∀ k v, c.effect = .store k v → k ∈ m.stored) ∧ Confined m m₂ := by
  have hstored : ∀ k v, c.effect = .store k v → k ∈ m.stored := fun k v he =>
    h.code.stored_of_turn hm ht he
  refine ⟨hstored, h.code.trans (sameCode_of_turn ht), fun k => ?_⟩
  obtain ⟨-, m', ⟨-, -, -, hp, rfl⟩, rfl⟩ := turn_eq_ok_iff.mp ht
  rw [memory_settle]
  rcases cell_apply ((m₁.withState .running).load c.word) c.effect k with hkeep | ⟨v, he, hset⟩
  · have hcells := h.cells k
    rwa [← show (((m₁.withState .running).load c.word).apply c.effect).memory.cells[k]? =
      m₁.memory.cells[k]? from hkeep] at hcells
  · rw [he] at hp
    exact .inr ⟨hstored k v he, v, hset (plan_store_lt hp)⟩

/-! ### What a run depends on -/

/-- Machines that differ only in memory, and there only in cells that the code does not name. -/
structure Agree (m m' : Machine) : Prop where
  processor : m.processor = m'.processor
  process : m.process = m'.process
  size : m.memory.size = m'.memory.size
  offset : m.process.dataOffset = m.process.boundary
  cells : ∀ k, k < m.process.boundary ∨ k ∈ m.named → m.memory.cells[k]? = m'.memory.cells[k]?

lemma Agree.load (h : Agree m m') (w : UInt32) : Agree (m.load w) (m'.load w) where
  processor := by simp only [Machine.load, withRegisters, registers, h.processor]
  process := h.process
  size := h.size
  offset := h.offset
  cells := h.cells

lemma Agree.fetchedWord (h : Agree m m') (hh : m.process.isHalted = false) :
    m.fetchedWord = m'.fetchedWord := by
  have hlt := ControlBlock.isHalted_eq_false_iff.mp hh
  have hcell := h.cells _ (.inl hlt)
  simp only [Machine.fetchedWord, Memory.read, Memory.fault, ← h.process, ← h.size, hcell]

lemma Agree.dataWord (h : Agree m m') (hw : w ∈ m.codeWords) :
    m.dataWord (.decode w) = m'.dataWord (.decode w) := by
  have hindex : m.dataIndex (.decode w) = m'.dataIndex (.decode w) := by
    simp only [dataIndex, h.process]
  have hcell := h.cells _ (.inr (List.mem_map.mpr ⟨w, hw, rfl⟩))
  simp only [Machine.dataWord, Memory.readWord, Memory.read, Memory.fault, ← hindex, ← h.size,
    hcell]

lemma cell_apply_congr (size : m.memory.size = m'.memory.size)
    (cell : m.memory.cells[k]? = m'.memory.cells[k]?) (e : Effect) :
    (m.apply e).memory.cells[k]? = (m'.apply e).memory.cells[k]? := by
  have hsize : m.memory.cells.size = m'.memory.cells.size := size
  cases e with
  | skip | setRegister | jump | halt => exact cell
  | store index v =>
    simp [apply, next, withProcess, withMemory, Array.getElem?_setIfInBounds, hsize, cell]

lemma Agree.apply (h : Agree m m') (hp : m.plan i = .ok e) : Agree (m.apply e) (m'.apply e) where
  processor := processor_apply_congr h.processor e
  process := process_apply_congr h.process e
  size := by rw [size_apply, size_apply, h.size]
  offset := by rw [dataOffset_apply, boundary_apply, h.offset]
  cells := by
    have hwords : (m.apply e).codeWords = m.codeWords :=
      codeWords_congr (boundary_apply m e) fun k hk =>
        cells_apply hp (by rw [h.offset]; exact hk.le)
    intro k hk
    rw [boundary_apply, (named_congr hwords (dataOffset_apply m e)).1] at hk
    exact cell_apply_congr h.size (h.cells k hk) e

/-- Machines that agree on the cells that the code names make the same cycle. -/
lemma Agree.cycle (h : Agree m m') (hh : m.process.isHalted = false) :
    m.cycle.1 = m'.cycle.1 ∧ Agree m.cycle.2 m'.cycle.2 := by
  have hword := h.fetchedWord hh
  have hplanned : ∀ w, m.fetchedWord = .ok w →
      Alike id ((m.load w).plan (.decode w)) ((m'.load w).plan (.decode w)) := by
    intro w hw
    have hdata : (m.load w).dataWord (.decode w) = (m'.load w).dataWord (.decode w) :=
      (h.load w).dataWord (mem_codeWords_of_fetched hh hw)
    exact (indistinct_of_memory (h.load w).processor h.process h.size (hdata ▸ .refl _)).plan
  have happlied : ∀ w e, m.fetchedWord = .ok w → (m.load w).plan (.decode w) = .ok e →
      Agree ((m.load w).apply e).tick ((m'.load w).apply e).tick := by
    intro w e _ hp
    have happly := (h.load w).apply hp
    exact ⟨by simp only [tick, happly.processor], happly.process, happly.size, happly.offset,
      happly.cells⟩
  obtain ⟨hresult, hnext⟩ := cycle_alike (congrArg ControlBlock.counter h.process)
    (hword ▸ .refl _) h (fun w _ => h.load w) hplanned happlied
  exact ⟨hresult.eq_of_id, hnext⟩

lemma lockstep_agree : Lockstep Agree where
  process h := h.process
  cycles h := by rw [h.processor]
  budget h := by simp only [config, h.processor]
  withState state h :=
    ⟨h.processor, congrArg (·.withState state) h.process, h.size, h.offset, h.cells⟩
  restart h := ⟨congrArg Processor.reset h.processor,
    congrArg (fun p => (p.goto 0).withState .ready) h.process, h.size, h.offset, h.cells⟩
  cycle h hh := h.cycle hh

end Machine

open Machine

namespace Kernel

variable {calls : List Call} {trace : List Event} {s : Kernel} {m : Machine}

/-- Along every history of a sealed machine only cells change that are stored to. -/
theorem confined_of_history (hm : m.Sealed) (hc : ∀ call ∈ calls, call.drives = true)
    (h : History (ofMachine m) calls trace s) :
    (∃ m', s = ofMachine m' ∧ Confined m m') ∧
      ∀ c ∈ cyclesOf trace, ∀ k v, c.effect = .store k v → k ∈ m.stored := by
  refine program_invariant (fun m₁ m₂ h₁ hframe hmemory => ?_)
    (fun m₁ c m₂ h₁ ht => h₁.turn hm ht) hc h (.refl m)
  refine ⟨h₁.code.trans ⟨hframe, fun k _ => by rw [hmemory]⟩, fun k => ?_⟩
  rw [hmemory]
  exact h₁.cells k

/-- Two programs that are ready agree if they have one boundary and size, and the same cells in the
code and where its address fields point. -/
lemma agree_readyMachine {config : Config} {lines lines' : List String}
    (boundary : (readyMachine config lines').process.boundary =
      (readyMachine config lines).process.boundary)
    (size : (readyMachine config lines').memory.size = (readyMachine config lines).memory.size)
    (cells : ∀ k, k < (readyMachine config lines).process.boundary ∨
      k ∈ (readyMachine config lines).named →
      (readyMachine config lines').memory.cells[k]? =
        (readyMachine config lines).memory.cells[k]?) :
    Agree (readyMachine config lines) (readyMachine config lines') where
  processor := rfl
  process := by
    have hprocess : ∀ ls : List String, (readyMachine config ls).process =
        ⟨0, (readyMachine config ls).process.boundary, (readyMachine config ls).process.boundary,
          .ready⟩ := fun _ => rfl
    rw [hprocess lines, hprocess lines', boundary]
  size := size.symm
  offset := rfl
  cells k hk := (cells k hk).symm

end Kernel

open Kernel

/-- **The footprint of a program is static.** Whatever is called on a program that is ready to
run, a cell changes only if the address field of a store in the code names it, and a cell that has
changed holds a data word. A second program that is ready in the same configuration, with the same
boundary and size of memory, the same code and the same cells where address fields of the code
point, goes through the same histories: what is called is answered and reported in the same way,
registers, processes and cycle counts stay equal, and so do the cells that are named; all other
cells stay as they are, in both. -/
theorem footprint_static {config : Config} {lines : List String} {calls : List Call}
    {trace : List Event} {s : Kernel} (hc : ∀ call ∈ calls, call.drives = true)
    (h : History (.ready config lines) calls trace s) :
    let m := readyMachine config lines
    ready config lines = ofMachine m ∧ m.process.dataOffset = m.process.boundary ∧
      (∀ k : ℕ, s.memory.cells[k]? = m.memory.cells[k]? ∨
        k ∈ m.stored ∧ ∃ v, s.memory.cells[k]? = some (.ofWord v)) ∧
      (∀ c ∈ cyclesOf trace, ∀ k v, c.effect = .store k v → k ∈ m.stored) ∧
      ∀ lines', let m' := readyMachine config lines'
        m'.process.boundary = m.process.boundary → m'.memory.size = m.memory.size →
        (∀ k, k < m.process.boundary ∨ k ∈ m.named →
          m'.memory.cells[k]? = m.memory.cells[k]?) →
        ∃ s', History (.ready config lines') calls trace s' ∧
          s'.processor = s.processor ∧ s'.process = s.process ∧
          (∀ k, k < m.process.boundary ∨ k ∈ m.named →
            s'.memory.cells[k]? = s.memory.cells[k]?) ∧
          (∀ k : ℕ, k ∉ m.named → s.memory.cells[k]? = m.memory.cells[k]? ∧
            s'.memory.cells[k]? = m'.memory.cells[k]?) ∧
          ∀ limit call, call.drives = true →
            (s'.answer limit call).map (fun o => (o.result, o.trace)) =
              (s.answer limit call).map fun o => (o.result, o.trace) := by
  intro m
  rw [ready_eq] at h
  have hsealed : m.Sealed := sealed_readyMachine config lines
  obtain ⟨⟨m₁, rfl, hconfined⟩, hstores⟩ := confined_of_history hsealed hc h
  refine ⟨ready_eq config lines, rfl, hconfined.cells, hstores, fun lines' => ?_⟩
  intro m' hboundary hsize hcells
  have hsealed' : m'.Sealed := sealed_readyMachine config lines'
  have hagree : Agree m m' := agree_readyMachine hboundary hsize hcells
  obtain ⟨s', hh', m₂, m₁', he, rfl, hagree'⟩ := lockstep_agree.history hagree hc h
  obtain rfl : m₁ = m₂ := ofMachine_inj he
  obtain ⟨⟨m₂', he', hconfined'⟩, -⟩ := confined_of_history hsealed' hc hh'
  obtain rfl : m₁' = m₂' := ofMachine_inj he'
  have hnamed : m₁.named = m.named :=
    (named_congr (hconfined.code.codeWords hsealed) hconfined.code.frame.dataOffset).1
  have hstored : m'.stored = m.stored := by
    have hwords : m'.codeWords = m.codeWords :=
      codeWords_congr hboundary fun k hk => hcells k (.inl hk)
    exact (named_congr hwords hboundary).2
  refine ⟨_, by rw [ready_eq]; exact hh', hagree'.processor.symm,
    congrArg some hagree'.process.symm, ?_, ?_, ?_⟩
  · intro k hk
    rw [← hconfined.code.frame.boundary, ← hnamed] at hk
    exact (hagree'.cells k hk).symm
  · intro k hk
    have hnot : k ∉ m.stored := fun hs => hk (named_of_stored hs)
    refine ⟨(hconfined.cells k).resolve_right fun hs => hnot hs.1, ?_⟩
    exact (hconfined'.cells k).resolve_right fun hs => hnot (hstored ▸ hs.1)
  · intro limit call hcall
    exact (lockstep_agree.answer_map ⟨m₁, m₁', rfl, rfl, hagree'⟩ limit hcall).symm

/-- A program that copies one data word over another, beside a cell that it does not name. -/
theorem footprint_static_copy :
    let lines := ["0x4B010001", "0x42100002", "data", "7", "0", "spare"]
    let lines' := ["0x4B010001", "0x42100002", "data", "7", "0", "0x10"]
    ∃ trace s s', History (.ready {} lines) [.run] trace s ∧
      History (.ready {} lines') [.run] trace s' ∧
      (readyMachine {} lines).stored = [4] ∧ (readyMachine {} lines).named = [3, 4] ∧
      s.memory.texts = ["0x4B010001", "0x42100002", "data", "7", "7", "spare", "end"] ∧
      s'.processor = s.processor ∧
      (∀ k ∉ [3, 4], s'.memory.cells[k]? = (readyMachine {} lines').memory.cells[k]?) := by
  intro lines lines'
  have hrun : ((ready {} lines).answerAll 9 [.run]).map (fun r => r.2.memory.texts) =
      some ["0x4B010001", "0x42100002", "data", "7", "7", "spare", "end"] := by
    decide +kernel
  obtain ⟨⟨trace, s⟩, hr, ht⟩ := Option.map_eq_some_iff.mp hrun
  have hh := history_of_answerAll hr
  have hnamed : (readyMachine {} lines).named = [3, 4] := by decide +kernel
  have hcells : ∀ k, k < (readyMachine {} lines).process.boundary ∨
      k ∈ (readyMachine {} lines).named →
      (readyMachine {} lines').memory.cells[k]? = (readyMachine {} lines).memory.cells[k]? := by
    have hboundary : (readyMachine {} lines).process.boundary = 2 := by decide +kernel
    have hlt : ∀ k < 5, (readyMachine {} lines').memory.cells[k]? =
        (readyMachine {} lines).memory.cells[k]? := by decide +kernel
    intro k hk
    rw [hboundary, hnamed] at hk
    refine hlt k ?_
    simp only [List.mem_cons, List.not_mem_nil, or_false] at hk
    omega
  obtain ⟨-, -, -, -, hother⟩ := footprint_static (by decide) hh
  obtain ⟨s', hh', hprocessor, -, -, hkeep, -⟩ :=
    hother lines' (by decide +kernel) (by decide +kernel) hcells
  rw [hnamed] at hkeep
  exact ⟨trace, s, s', hh, hh', by decide +kernel, hnamed, ht, hprocessor,
    fun k hk => (hkeep k hk).2⟩

end CellMachine
