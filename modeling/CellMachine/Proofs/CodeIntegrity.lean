import CellMachine.Proofs.Histories
import CellMachine.Proofs.Scheduling

/-!
Code is never modified. A store goes beyond the first data cell, because an address field of zero
makes it a move between registers; so all cells up to the boundary stay as they have been scheduled.
The cell at the boundary is a marker, which is no data word, so no instruction that would read it
completes.
-/

namespace CellMachine

/-- The record of a cycle is faithful to the program of a machine whose data begins at a marker. -/
structure Cycle.Faithful (c : Cycle) (m : Machine) : Prop where
  address : c.address < m.process.boundary
  word : m.memory.cells[c.address]?.bind Cell.instructionWord? = some c.word
  instruction : c.instruction = .decode c.word
  immediate : c.instruction.address.field = 0 →
    ∀ o, c.instruction.operation? = some o → o.isImmediate = false
  jump : c.instruction.address.field = 0 → m.config.jumps = .indirect →
    c.instruction.operation? ≠ some .jmp ∧ ∀ target, c.effect ≠ .jump target

namespace Machine

variable {m m' m'' : Machine} {i : Instruction} {e : Effect} {c : Cycle} {cs : List Cycle}

lemma cells_apply (hp : m.plan i = .ok e) {k : ℕ} (hk : k ≤ m.process.dataOffset) :
    (m.apply e).memory.cells[k]? = m.memory.cells[k]? := by
  cases plan_cases hp with
  | skip => rfl
  | setRegister => rfl
  | jump => rfl
  | halt => rfl
  | store v operation address inside =>
    -- A store with an address field of zero would be a move between registers.
    have hne : m.dataIndex i ≠ k := by
      have hf : i.address.field.toNat ≠ 0 := by
        intro h0
        have : i.address.field = 0 := UInt32.toNat_inj.mp h0
        simp [Address.isRegister, this] at address
      unfold dataIndex Address.effective
      omega
    simp [apply, next, withProcess, withMemory, hne]

structure SameCode (m m' : Machine) : Prop where
  frame : Frame m m'
  cells : ∀ k ≤ m.process.dataOffset, m'.memory.cells[k]? = m.memory.cells[k]?

lemma SameCode.refl (m : Machine) : SameCode m m := ⟨.refl m, fun _ _ => rfl⟩

lemma SameCode.trans (h : SameCode m m') (h' : SameCode m' m'') : SameCode m m'' where
  frame := h.frame.trans h'.frame
  cells k hk := (h'.cells k (by rw [h.frame.dataOffset]; exact hk)).trans (h.cells k hk)

lemma sameCode_of_turn (h : m.turn = (.ok (some c), m'')) : SameCode m m'' where
  frame := frame_of_turn h
  cells k hk := by
    obtain ⟨-, m', ⟨-, -, -, hp, rfl⟩, rfl⟩ := turn_eq_ok_iff.mp h
    rw [memory_settle]
    exact cells_apply hp hk

lemma Turns.sameCode (h : Turns m cs m') : SameCode m m' := by
  induction h with
  | nil m => exact .refl m
  | cons turn _ ih => exact (sameCode_of_turn turn).trans ih

/-! ### What the records of cycles say -/

/-- Over a first data cell that holds no data word, an address field of zero reads nothing. -/
lemma dataWord_ne_ok {cell : Cell} (hm : m.memory.cells[m.process.dataOffset]? = some cell)
    (hc : cell.dataWord? = none) (hz : i.address.field = 0) (w : Int32) : m.dataWord i ≠ .ok w := by
  have hi : m.dataIndex i = m.process.dataOffset := by
    simp [dataIndex, Address.effective, hz]
  simp [dataWord, hi, Memory.readWord, Memory.read, hm, hc]

lemma faithful_of_turn {cell : Cell} (hm : m.memory.cells[m.process.dataOffset]? = some cell)
    (hcell : cell.dataWord? = none) (h : m.turn = (.ok (some c), m'')) : c.Faithful m := by
  obtain ⟨hh, m', ⟨ha, hw, hd, hp, -⟩, -⟩ := turn_eq_ok_iff.mp h
  have hnone : c.instruction.address.field = 0 → ∀ w,
      ((m.withState .running).load c.word).dataWord c.instruction ≠ .ok w := fun hz w =>
    dataWord_ne_ok (m := (m.withState .running).load c.word) hm hcell hz w
  refine ⟨?_, ?_, hd, fun hz o ho => ?_, fun hz hj => ?_⟩
  · rw [ha]
    exact ControlBlock.isHalted_eq_false_iff.mp hh
  · rw [ha]
    exact fetchedWord_eq_ok_iff.mp hw
  · by_contra himm
    obtain ⟨w, hw'⟩ := dataWord_of_isImmediate hp ho (by simpa using himm)
    exact hnone hz w hw'
  · have hjump : ∀ target, c.effect ≠ .jump target := by
      intro target he
      rw [he] at hp
      cases plan_cases hp with
      | jump _ ht =>
        obtain ⟨w, hw'⟩ := dataWord_of_jumpTarget ht hj
        exact hnone hz w hw'
    refine ⟨fun ho => ?_, hjump⟩
    obtain ⟨target, he⟩ := jump_of_jmp hp ho
    exact hjump target he

/-- A machine whose data begins at the boundary, where no data word is. -/
structure Sealed (m : Machine) : Prop where
  dataOffset : m.process.dataOffset = m.process.boundary
  cell : ∃ cell, m.memory.cells[m.process.dataOffset]? = some cell ∧ cell.dataWord? = none

lemma SameCode.sealed (h : SameCode m m') (hm : m.Sealed) : m'.Sealed where
  dataOffset := by
    rw [h.frame.dataOffset, h.frame.boundary]
    exact hm.dataOffset
  cell := by
    rw [h.frame.dataOffset, h.cells _ le_rfl]
    exact hm.cell

lemma SameCode.faithful (h : SameCode m m') (hm : m.Sealed) (ht : m'.turn = (.ok (some c), m'')) :
    c.Faithful m := by
  obtain ⟨cell, hcell, hnone⟩ := (h.sealed hm).cell
  obtain ⟨haddress, hword, hdec, himm, hjump⟩ := faithful_of_turn hcell hnone ht
  rw [h.frame.boundary] at haddress
  rw [h.cells _ (by rw [hm.dataOffset]; exact haddress.le)] at hword
  rw [h.frame.config] at hjump
  exact ⟨haddress, hword, hdec, himm, hjump⟩

end Machine

open Machine

namespace Kernel

variable {s : Kernel} {calls : List Call} {trace : List Event} {m : Machine}

/-- Along every history of a sealed machine its code stays as it is, and all records are faithful
to it. -/
theorem sameCode_of_history (hm : m.Sealed) (hc : ∀ call ∈ calls, call.drives = true)
    (h : History (ofMachine m) calls trace s) :
    (∃ m', s = ofMachine m' ∧ SameCode m m') ∧ ∀ c ∈ cyclesOf trace, c.Faithful m :=
  program_invariant (fun _ _ h₁ hframe hmemory => h₁.trans ⟨hframe, fun _ _ => by rw [hmemory]⟩)
    (fun _ _ _ h₁ ht => ⟨h₁.faithful hm ht, h₁.trans (sameCode_of_turn ht)⟩) hc h (.refl m)

def readyMachine (config : Config) (lines : List String) : Machine :=
  let image := Image.ofCells (lines.map Cell.mk)
  ⟨.init config, ⟨0, image.boundary, image.boundary, .ready⟩, ⟨image.cells.toArray⟩⟩

lemma ready_eq (config : Config) (lines : List String) :
    ready config lines = ofMachine (readyMachine config lines) := by
  simp [ready, readyMachine, loadLines, init, Memory.append, Memory.empty, schedule, dispatch,
    Outcome.andThen, ofMachine, ControlBlock.init, ControlBlock.goto, ControlBlock.withState,
    Processor.reset, Processor.init, Registers.reset, Registers.init]

lemma dispatched?_ready (config : Config) (lines : List String) :
    (ready config lines).dispatched? = some (readyMachine config lines) := by
  rw [ready_eq]
  exact dispatched?_ofMachine (by simp [readyMachine])

lemma cell_boundary_readyMachine (config : Config) (lines : List String) :
    let m := readyMachine config lines
    m.memory.cells[m.process.boundary]? = some .dataMarker ∨
      m.memory.cells[m.process.boundary]? = some .endMarker := by
  simpa [readyMachine] using Image.cell_boundary (lines.map Cell.mk)

lemma sealed_readyMachine (config : Config) (lines : List String) :
    (readyMachine config lines).Sealed where
  dataOffset := rfl
  cell := by
    rcases cell_boundary_readyMachine config lines with h | h
    · exact ⟨_, h, by decide⟩
    · exact ⟨_, h, by decide⟩

end Kernel

/-- **Code is never modified.** Whatever is called on a program that is ready to run, its cells up to
the boundary and the size of memory stay as they have been scheduled. So the records of two cycles at
one address agree in word and instruction; and since a marker stands at the boundary, no instruction
that would read the cell there completes. -/
theorem code_never_modified {config : Config} {lines : List String} {calls : List Call}
    {trace : List Event} {s : Kernel} (hc : ∀ call ∈ calls, call.drives = true)
    (h : History (.ready config lines) calls trace s) :
    ∃ p q, (Kernel.ready config lines).process = some p ∧ s.process = some q ∧
      q.boundary = p.boundary ∧ s.memory.size = (Kernel.ready config lines).memory.size ∧
      (∀ k ≤ p.boundary, s.memory.cells[k]? = (Kernel.ready config lines).memory.cells[k]?) ∧
      (s.memory.cells[p.boundary]? = some .dataMarker ∨
        s.memory.cells[p.boundary]? = some .endMarker) ∧
      (∀ c ∈ cyclesOf trace, ∀ d ∈ cyclesOf trace, c.address = d.address →
        c.word = d.word ∧ c.instruction = d.instruction) ∧
      ∀ c ∈ cyclesOf trace, c.instruction.address.field = 0 →
        (∀ o, c.instruction.operation? = some o → o.isImmediate = false) ∧
        (config.jumps = .indirect →
          c.instruction.operation? ≠ some .jmp ∧ ∀ target, c.effect ≠ .jump target) := by
  rw [Kernel.ready_eq] at h ⊢
  have hsealed := Kernel.sealed_readyMachine config lines
  obtain ⟨⟨m, rfl, hs⟩, hcs⟩ := Kernel.sameCode_of_history hsealed hc h
  have hcells : ∀ k ≤ (Kernel.readyMachine config lines).process.boundary,
      m.memory.cells[k]? = (Kernel.readyMachine config lines).memory.cells[k]? := hs.cells
  refine ⟨_, m.process, rfl, rfl, hs.frame.boundary, hs.frame.size, hcells, ?_, ?_, ?_⟩
  · show m.memory.cells[_]? = _ ∨ m.memory.cells[_]? = _
    rw [hcells _ le_rfl]
    exact Kernel.cell_boundary_readyMachine config lines
  · intro c hcm d hdm heq
    have hc' := hcs c hcm
    have hd' := hcs d hdm
    have hword : c.word = d.word := by
      have := hc'.word
      rw [heq, hd'.word] at this
      exact (Option.some.inj this).symm
    exact ⟨hword, by rw [hc'.instruction, hd'.instruction, hword]⟩
  · intro c hcm hz
    exact ⟨(hcs c hcm).immediate hz, (hcs c hcm).jump hz⟩

/-- A program that copies a data word, run twice. -/
theorem code_never_modified_copy :
    ∃ trace s, History (.ready {} ["0x4B010001", "0x42100002", "data", "7", "0"])
        [.run, .dispatch, .run] trace s ∧
      s.memory.texts = ["0x4B010001", "0x42100002", "data", "7", "7", "end"] ∧
      (cyclesOf trace).map (·.address) = [0, 1, 0, 1] ∧
      ∀ c ∈ cyclesOf trace, ∀ d ∈ cyclesOf trace, c.address = d.address →
        c.word = d.word ∧ c.instruction = d.instruction := by
  obtain ⟨⟨trace, s⟩, h, ht, ha⟩ : ∃ r, (Kernel.ready {} ["0x4B010001", "0x42100002", "data", "7",
      "0"]).answerAll 9 [.run, .dispatch, .run] = some r ∧
      r.2.memory.texts = ["0x4B010001", "0x42100002", "data", "7", "7", "end"] ∧
      (cyclesOf r.1).map (·.address) = [0, 1, 0, 1] :=
    ⟨_, rfl, by decide +kernel, by decide +kernel⟩
  have hh := Kernel.history_of_answerAll h
  obtain ⟨p, q, -, -, -, -, -, -, hwords, -⟩ := code_never_modified (by decide) hh
  exact ⟨trace, s, hh, ht, ha, hwords⟩

end CellMachine
