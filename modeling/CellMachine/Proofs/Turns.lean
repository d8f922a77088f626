import CellMachine.Processor.Cycle
import CellMachine.Proofs.Planning

/-!
Cycles and turns, opened once and for all. A cycle that completes has applied the effect planned for
the fetched word, and one that fails has at most loaded it; no plan fails to be carried out. A
stretch of turns is a chain of completed ones and whatever ended it.
-/

namespace CellMachine

namespace ControlBlock

variable {p : ControlBlock}

lemma isHalted_eq_false_iff : p.isHalted = false ↔ p.counter < p.boundary := by
  simp [isHalted]

lemma isHalted_eq_true_iff : p.isHalted = true ↔ p.boundary ≤ p.counter := by
  simp [isHalted]

end ControlBlock

namespace Machine

def apply (m : Machine) : Effect → Machine
  | .skip => m.next
  | .setRegister register v => (m.withRegisters (m.registers.set register v)).next
  | .store index v => (m.withMemory ⟨m.memory.cells.setIfInBounds index (.ofWord v)⟩).next
  | .jump target => m.withProcess (m.process.goto target)
  | .halt => m.withProcess m.process.halt

def wordAtCounter? (m : Machine) : Option UInt32 :=
  m.memory.cells[m.process.counter]?.bind Cell.instructionWord?

/-- The machine after a fetch, which loads the word at the program counter if there is one. -/
def afterFetch (m : Machine) : Machine :=
  match m.fetchedWord with
  | .ok w => m.load w
  | .error _ => m

variable {m m' m'' : Machine} {c : Cycle} {cs : List Cycle} {e : Effect} {f : Fault} {w : UInt32}

lemma fetchedWord_eq_ok_iff : m.fetchedWord = .ok w ↔ m.wordAtCounter? = some w := by
  unfold fetchedWord wordAtCounter? Memory.read
  rcases hc : m.memory.cells[m.process.counter]? with _ | cell
  · simp [hc]
  · rcases hw : cell.instructionWord? with _ | w' <;> simp [hc, hw]

lemma plan_store_lt {i : Instruction} {index : ℕ} {v : Int32}
    (h : m.plan i = .ok (.store index v)) : index < m.memory.size := by
  cases plan_cases h with
  | store _ _ _ inside => exact inside

/-- What has been planned can be carried out. -/
lemma commit_of_plan {i : Instruction} (h : m.plan i = .ok e) : m.commit e = (.ok (), m.apply e) := by
  cases e with
  | skip | setRegister | jump | halt => rfl
  | store index v =>
    have hlt := plan_store_lt h
    have hset : m.memory.cells.setIfInBounds index (.ofWord v) =
        m.memory.cells.set index (.ofWord v) hlt := by
      simp [Array.setIfInBounds, show index < m.memory.cells.size from hlt]
    simp only [commit, Memory.write, Memory.overwrite_of_lt hlt, apply, hset]

/-- Executing an instruction does what is planned, and nothing if nothing is. -/
theorem perform_eq (m : Machine) (i : Instruction) :
    m.perform i =
      match m.plan i with
      | .error f => (.error f, m)
      | .ok e => (.ok e, m.apply e) := by
  unfold perform
  rcases h : m.plan i with f | e
  · rfl
  · simp only [commit_of_plan h]

/-- **Inversion of a cycle.** -/
theorem cycle_eq (m : Machine) :
    m.cycle =
      match m.fetchedWord with
      | .error f => (.error f, m)
      | .ok w =>
        match (m.load w).plan (.decode w) with
        | .error f => (.error f, m.load w)
        | .ok e => (.ok ⟨m.process.counter, w, .decode w, e⟩, ((m.load w).apply e).tick) := by
  unfold cycle fetch
  rcases m.fetchedWord with f | w
  · rfl
  · simp only [Except.map, decoded_load, perform_eq]
    rcases (m.load w).plan (.decode w) with f | e <;> rfl

/-- A cycle is stopped by its fetch, or by the plan of what it fetched. -/
inductive Stops (m : Machine) (f : Fault) : Prop where
  | fetch (fetched : m.fetchedWord = .error f)
  | plan (w : UInt32) (fetched : m.fetchedWord = .ok w)
    (planned : (m.load w).plan (.decode w) = .error f)

/-- A cycle that completes: what its record says, and the machine it leaves. -/
structure Completes (m : Machine) (c : Cycle) (m' : Machine) : Prop where
  address : c.address = m.process.counter
  fetched : m.fetchedWord = .ok c.word
  decoded : c.instruction = .decode c.word
  planned : (m.load c.word).plan c.instruction = .ok c.effect
  next : m' = ((m.load c.word).apply c.effect).tick

lemma cycle_eq_ok_iff : m.cycle = (.ok c, m') ↔ Completes m c m' := by
  rw [cycle_eq]
  constructor
  · intro h
    rcases hw : m.fetchedWord with f | w
    · simp [hw] at h
    · rcases hp : (m.load w).plan (.decode w) with f | e
      · simp [hw, hp] at h
      · simp only [hw, hp, Prod.mk.injEq, Except.ok.injEq] at h
        obtain ⟨rfl, rfl⟩ := h
        exact ⟨rfl, hw, rfl, hp, rfl⟩
  · rintro ⟨ha, hw, hd, hp, rfl⟩
    obtain ⟨address, word, instruction, effect⟩ := c
    simp only at ha hw hd hp
    subst ha hd
    simp only [hw, hp]

lemma cycle_eq_error_iff : m.cycle = (.error f, m') ↔ Stops m f ∧ m' = m.afterFetch := by
  rw [cycle_eq]
  unfold afterFetch
  constructor
  · intro h
    rcases hw : m.fetchedWord with g | w
    · simp only [hw, Prod.mk.injEq, Except.error.injEq] at h
      exact ⟨.fetch (by rw [hw, h.1]), h.2.symm⟩
    · rcases hp : (m.load w).plan (.decode w) with g | e
      · simp only [hw, hp, Prod.mk.injEq, Except.error.injEq] at h
        exact ⟨.plan w hw (by rw [hp, h.1]), h.2.symm⟩
      · simp [hw, hp] at h
  · rintro ⟨hs, rfl⟩
    cases hs with
    | fetch fetched => simp only [fetched]
    | plan w fetched planned => simp only [fetched, planned]

/-! ### Turns -/

lemma turn_of_halted (h : m.process.isHalted = true) :
    m.turn = (.ok none, m.withState .terminated) := by
  simp only [turn, h, if_true]

lemma turn_of_active (h : m.process.isHalted = false) :
    m.turn =
      match (m.withState .running).cycle with
      | (.error f, m') => (.error f, m')
      | (.ok c, m') => (.ok (some c), m'.settle) := by
  unfold turn
  refine (if_neg (by simp [h])).trans ?_
  rcases (m.withState .running).cycle with ⟨f | c, m'⟩ <;> rfl

lemma turn_eq_ok_iff :
    m.turn = (.ok (some c), m'') ↔
      m.process.isHalted = false ∧ ∃ m', Completes (m.withState .running) c m' ∧ m'' = m'.settle := by
  rcases hh : m.process.isHalted with _ | _
  · rw [turn_of_active hh]
    rcases hc : (m.withState .running).cycle with ⟨f | d, m'⟩
    · simp only [Prod.mk.injEq, reduceCtorEq, false_and, true_and, false_iff, not_exists, not_and]
      intro m₁ h₁
      rw [cycle_eq_ok_iff.mpr h₁] at hc
      simp at hc
    · simp only [Prod.mk.injEq, Except.ok.injEq, Option.some.injEq, true_and]
      constructor
      · rintro ⟨rfl, rfl⟩
        exact ⟨m', cycle_eq_ok_iff.mp hc, rfl⟩
      · rintro ⟨m₁, h₁, rfl⟩
        rw [cycle_eq_ok_iff.mpr h₁, Prod.mk.injEq, Except.ok.injEq] at hc
        exact ⟨hc.1.symm, by rw [hc.2]⟩
  · simp [turn_of_halted hh]

lemma turn_eq_error_iff :
    m.turn = (.error f, m'') ↔
      m.process.isHalted = false ∧ Stops (m.withState .running) f ∧
        m'' = (m.withState .running).afterFetch := by
  rw [← cycle_eq_error_iff]
  rcases hh : m.process.isHalted with _ | _
  · rw [turn_of_active hh]
    rcases (m.withState .running).cycle with ⟨g | d, m'⟩ <;> simp
  · simp [turn_of_halted hh]

lemma turn_eq_none (h : m.turn = (.ok none, m'')) :
    m.process.isHalted = true ∧ m'' = m.withState .terminated := by
  rcases hh : m.process.isHalted with _ | _
  · rw [turn_of_active hh] at h
    rcases hc : (m.withState .running).cycle with ⟨g | d, m'⟩ <;> simp [hc] at h
  · rw [turn_of_halted hh] at h
    simpa using h.symm

/-! ### What a cycle leaves alone -/

@[simp] lemma process_load (m : Machine) (w : UInt32) : (m.load w).process = m.process := rfl

@[simp] lemma memory_load (m : Machine) (w : UInt32) : (m.load w).memory = m.memory := rfl

@[simp] lemma config_load (m : Machine) (w : UInt32) : (m.load w).config = m.config := rfl

@[simp] lemma process_afterFetch (m : Machine) : m.afterFetch.process = m.process := by
  unfold afterFetch; split <;> rfl

@[simp] lemma memory_afterFetch (m : Machine) : m.afterFetch.memory = m.memory := by
  unfold afterFetch; split <;> rfl

@[simp] lemma config_afterFetch (m : Machine) : m.afterFetch.config = m.config := by
  unfold afterFetch; split <;> rfl

@[simp] lemma cycles_afterFetch (m : Machine) :
    m.afterFetch.processor.cycles = m.processor.cycles := by
  unfold afterFetch; split <;> rfl

@[simp] lemma config_apply (m : Machine) (e : Effect) : (m.apply e).config = m.config := by
  cases e <;> rfl

@[simp] lemma cycles_apply (m : Machine) (e : Effect) :
    (m.apply e).processor.cycles = m.processor.cycles := by
  cases e <;> rfl

@[simp] lemma boundary_apply (m : Machine) (e : Effect) :
    (m.apply e).process.boundary = m.process.boundary := by
  cases e <;> rfl

@[simp] lemma dataOffset_apply (m : Machine) (e : Effect) :
    (m.apply e).process.dataOffset = m.process.dataOffset := by
  cases e <;> rfl

@[simp] lemma state_apply (m : Machine) (e : Effect) :
    (m.apply e).process.state = m.process.state := by
  cases e <;> rfl

@[simp] lemma size_apply (m : Machine) (e : Effect) :
    (m.apply e).memory.size = m.memory.size := by
  cases e <;> simp [apply, next, withProcess, withRegisters, withMemory, Memory.size]

@[simp] lemma memory_settle (m : Machine) : m.settle.memory = m.memory := by
  unfold settle; split <;> rfl

@[simp] lemma processor_settle (m : Machine) : m.settle.processor = m.processor := by
  unfold settle; split <;> rfl

lemma process_settle (m : Machine) :
    m.settle.process = if m.process.isHalted then m.process.withState .terminated else m.process := by
  unfold settle; split <;> rfl

/-- What no cycle of a process changes. -/
structure Frame (m m' : Machine) : Prop where
  boundary : m'.process.boundary = m.process.boundary
  dataOffset : m'.process.dataOffset = m.process.dataOffset
  config : m'.config = m.config
  size : m'.memory.size = m.memory.size

lemma Frame.refl (m : Machine) : Frame m m := ⟨rfl, rfl, rfl, rfl⟩

lemma Frame.trans (h : Frame m m') (h' : Frame m' m'') : Frame m m'' :=
  ⟨h'.boundary.trans h.boundary, h'.dataOffset.trans h.dataOffset, h'.config.trans h.config,
    h'.size.trans h.size⟩

lemma frame_withState (m : Machine) (state : ProcessState) : Frame m (m.withState state) :=
  ⟨rfl, rfl, rfl, rfl⟩

lemma frame_settle (m : Machine) : Frame m m.settle := by
  unfold settle
  split
  · exact frame_withState m _
  · exact .refl m

lemma frame_afterFetch (m : Machine) : Frame m m.afterFetch :=
  ⟨by rw [process_afterFetch], by rw [process_afterFetch], config_afterFetch m,
    by rw [memory_afterFetch]⟩

lemma Completes.frame (h : Completes m c m') : Frame m m' := by
  obtain ⟨-, -, -, -, rfl⟩ := h
  exact ⟨boundary_apply _ _, dataOffset_apply _ _, config_apply _ _, size_apply _ _⟩

lemma Completes.cycles (h : Completes m c m') :
    m'.processor.cycles = m.processor.cycles + 1 := by
  rw [h.next]
  exact congrArg (· + 1) (cycles_apply _ _)

lemma frame_of_turn (h : m.turn = (.ok (some c), m'')) : Frame m m'' := by
  obtain ⟨-, m', hc, rfl⟩ := turn_eq_ok_iff.mp h
  exact ((frame_withState m _).trans hc.frame).trans (frame_settle m')

lemma cycles_of_turn (h : m.turn = (.ok (some c), m'')) :
    m''.processor.cycles = m.processor.cycles + 1 := by
  obtain ⟨-, m', hc, rfl⟩ := turn_eq_ok_iff.mp h
  rw [processor_settle, hc.cycles]
  rfl

lemma cycles_of_failed (h : m.turn = (.error f, m'')) :
    m''.processor.cycles = m.processor.cycles := by
  obtain ⟨-, -, rfl⟩ := turn_eq_error_iff.mp h
  rw [cycles_afterFetch]
  rfl

/-- A completed turn leaves the process running or terminated. -/
lemma state_of_turn (h : m.turn = (.ok (some c), m'')) : m''.process.state ≠ .new := by
  obtain ⟨-, m', hc, rfl⟩ := turn_eq_ok_iff.mp h
  have hs : m'.process.state = .running := by
    rw [hc.next]
    exact state_apply _ _
  rw [process_settle]
  split
  · simp [ControlBlock.withState]
  · simp [hs]

/-! ### Stretches -/

inductive Turns : Machine → List Cycle → Machine → Prop where
  | nil (m : Machine) : Turns m [] m
  | cons {m m' m'' : Machine} {c : Cycle} {cs : List Cycle}
    (turn : m.turn = (.ok (some c), m')) (rest : Turns m' cs m'') : Turns m (c :: cs) m''

/-- What every completed turn preserves holds along all turns, and so does what it implies for the
record of the turn. -/
theorem Turns.invariant {P : Machine → Prop} {Q : Cycle → Prop}
    (step : ∀ m c m', P m → m.turn = (.ok (some c), m') → Q c ∧ P m')
    (h : Turns m cs m') (hm : P m) : (∀ c ∈ cs, Q c) ∧ P m' := by
  induction h with
  | nil => exact ⟨by simp, hm⟩
  | cons turn _ ih =>
    obtain ⟨hc, hm'⟩ := step _ _ _ hm turn
    obtain ⟨hcs, hend⟩ := ih hm'
    exact ⟨by simpa using ⟨hc, hcs⟩, hend⟩

lemma Turns.cycles (h : Turns m cs m') :
    m'.processor.cycles = m.processor.cycles + cs.length := by
  induction h with
  | nil => rfl
  | cons turn _ ih =>
    rw [ih, cycles_of_turn turn, List.length_cons]
    omega

lemma Turns.append {ds : List Cycle} (h : Turns m cs m') (h' : Turns m' ds m'') :
    Turns m (cs ++ ds) m'' := by
  induction h with
  | nil => exact h'
  | cons turn _ ih => exact .cons turn (ih h')

/-- Before its last turn a stretch stands at a machine that has not halted. -/
lemma Turns.stop_short (h : Turns m cs m') {b : ℕ} (hb : b < cs.length) :
    ∃ m₁, Turns m (cs.take b) m₁ ∧ m₁.process.isHalted = false := by
  induction h generalizing b with
  | nil => simp at hb
  | @cons m m₁ m' c cs turn _ ih =>
    rcases b with _ | b
    · exact ⟨m, .nil m, (turn_eq_ok_iff.mp turn).1⟩
    · obtain ⟨m₂, run, hh⟩ := ih (by simpa using hb)
      exact ⟨m₂, .cons turn run, hh⟩

/-- How a stretch of at most `n` turns can end. -/
inductive Ends (m : Machine) (n : ℕ) : Verdict → Machine → List Cycle → Prop where
  | halted {m' : Machine} {cs : List Cycle} (run : Turns m cs m') (length : cs.length ≤ n)
    (halts : m'.process.isHalted = true) : Ends m n .halted m' cs
  | failed {m' m'' : Machine} {cs : List Cycle} {f : Fault} (run : Turns m cs m')
    (length : cs.length < n) (turn : m'.turn = (.error f, m'')) : Ends m n (.failed f) m'' cs
  | pending {m' : Machine} {cs : List Cycle} (run : Turns m cs m') (length : cs.length = n)
    (goes_on : m'.process.isHalted = false) : Ends m n .pending m' cs

lemma Ends.cons {n : ℕ} {v : Verdict} (turn : m.turn = (.ok (some c), m'))
    (h : Ends m' n v m'' cs) : Ends m (n + 1) v m'' (c :: cs) := by
  cases h with
  | halted run length halts => exact .halted (.cons turn run) (by simpa using length) halts
  | failed run length stop => exact .failed (.cons turn run) (by simpa using length) stop
  | pending run length goes_on => exact .pending (.cons turn run) (by simpa using length) goes_on

/-- **Inversion of a stretch.** -/
theorem advance_ends (n : ℕ) (m : Machine) (done : Array Cycle) :
    ∃ cs, (advance n m done).cycles.toList = done.toList ++ cs ∧
      Ends m n (advance n m done).verdict (advance n m done).machine cs := by
  induction n generalizing m done with
  | zero =>
    rcases hh : m.process.isHalted with _ | _
    · exact ⟨[], by simp [advance], by simpa [advance, hh] using .pending (.nil m) rfl hh⟩
    · exact ⟨[], by simp [advance], by simpa [advance, hh] using .halted (.nil m) (by simp) hh⟩
  | succ n ih =>
    rcases hh : m.process.isHalted with _ | _
    · rcases ht : m.turn with ⟨f | c?, m'⟩
      · refine ⟨[], by simp [advance, hh, ht], ?_⟩
        simpa [advance, hh, ht] using .failed (.nil m) (by simp) ht
      · rcases c? with _ | c
        -- Only a halted process makes a turn without a cycle.
        · have := (turn_eq_none ht).1
          simp [hh] at this
        · obtain ⟨cs, hcs, hends⟩ := ih m' (done.push c)
          refine ⟨c :: cs, by simp [advance, hh, ht, hcs], ?_⟩
          simpa [advance, hh, ht] using hends.cons ht
    · exact ⟨[], by simp [advance, hh], by simpa [advance, hh] using .halted (.nil m) (by simp) hh⟩

lemma exists_ends (n : ℕ) (m : Machine) : ∃ v m' cs, Ends m n v m' cs := by
  obtain ⟨cs, -, hends⟩ := advance_ends n m #[]
  exact ⟨_, _, cs, hends⟩

end Machine

end CellMachine
