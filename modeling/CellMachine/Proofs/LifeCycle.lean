import CellMachine.Proofs.Histories
import CellMachine.Proofs.Scheduling

/-!
The life of a process. In every history of a kernel the program counter stands inside memory: at
the first instruction until a cycle has begun, below the boundary while the process runs, and at or
beyond the boundary once it has terminated. The clauses carry each other: a jump is planned only to
a cell that there is, the next instruction is at most the boundary, and the boundary is a cell.
-/

namespace CellMachine

/-- Where a process can stand in a memory of `size` cells. -/
structure ControlBlock.Stands (p : ControlBlock) (size : ℕ) : Prop where
  dataOffset : p.dataOffset = p.boundary
  boundary : p.boundary < size
  counter : p.counter < size
  fresh : p.state = .new ∨ p.state = .ready → p.counter = 0
  running : p.state = .running → p.counter < p.boundary
  terminated : p.state = .terminated → p.boundary ≤ p.counter

namespace ControlBlock

variable {p : ControlBlock} {size size' : ℕ}

lemma stands_init {boundary : ℕ} (h : boundary < size) : (init boundary boundary).Stands size where
  dataOffset := rfl
  boundary := h
  counter := by simp only [init]; omega
  fresh _ := rfl
  running h := by simp [init] at h
  terminated h := by simp [init] at h

lemma Stands.mono (h : p.Stands size) (hle : size ≤ size') : p.Stands size' where
  dataOffset := h.dataOffset
  boundary := lt_of_lt_of_le h.boundary hle
  counter := lt_of_lt_of_le h.counter hle
  fresh := h.fresh
  running := h.running
  terminated := h.terminated

lemma Stands.dispatched (h : p.Stands size) : ((p.goto 0).withState .ready).Stands size where
  dataOffset := h.dataOffset
  boundary := h.boundary
  counter := by
    have := h.boundary
    show 0 < size
    omega
  fresh _ := rfl
  running h := by simp [withState] at h
  terminated h := by simp [withState] at h

lemma Stands.begun (h : p.Stands size) (hp : p.isHalted = false) :
    (p.withState .running).Stands size where
  dataOffset := h.dataOffset
  boundary := h.boundary
  counter := h.counter
  fresh h := by simp [withState] at h
  running _ := isHalted_eq_false_iff.mp hp
  terminated h := by simp [withState] at h

lemma Stands.halted (h : p.Stands size) (hp : p.isHalted = true) :
    (p.withState .terminated).Stands size where
  dataOffset := h.dataOffset
  boundary := h.boundary
  counter := h.counter
  fresh h := by simp [withState] at h
  running h := by simp [withState] at h
  terminated _ := isHalted_eq_true_iff.mp hp

end ControlBlock

namespace Machine

variable {m m' : Machine} {c : Cycle} {cs : List Cycle} {f : Fault} {r : Except Failure Unit}

def Stands (m : Machine) : Prop := m.process.Stands m.memory.size

/-- The next counter is inside memory: it is beside the last one, a jump target, or the boundary. -/
lemma counter_lt_of_completes (hb : m.process.boundary < m.memory.size)
    (hc : m.process.counter < m.process.boundary) (h : Completes m c m') :
    m'.process.counter < m'.memory.size := by
  obtain ⟨-, -, -, hp, rfl⟩ := h
  show ((m.load c.word).apply c.effect).process.counter <
    ((m.load c.word).apply c.effect).memory.size
  rw [size_apply, memory_load]
  have hnext : m.process.counter + 1 < m.memory.size := by omega
  generalize c.effect = e at hp
  cases plan_cases hp with
  | skip => exact hnext
  | setRegister => exact hnext
  | store => exact hnext
  | jump target ht => exact jumpTarget_lt ht
  | halt => exact hb

lemma stands_of_turn (hm : m.Stands) (h : m.turn = (.ok (some c), m')) :
    c.address < m.process.boundary ∧ m'.Stands := by
  obtain ⟨hh, m₁, hc, rfl⟩ := turn_eq_ok_iff.mp h
  have hlt := ControlBlock.isHalted_eq_false_iff.mp hh
  have hstate : m₁.process.state = .running := by
    rw [hc.next]
    exact state_apply _ _
  have hcounter := counter_lt_of_completes (m := m.withState .running) hm.boundary hlt hc
  have hframe := hc.frame
  have hboundary : m₁.process.boundary < m₁.memory.size := by
    rw [hframe.boundary, hframe.size]
    exact hm.boundary
  have hoffset : m₁.process.dataOffset = m₁.process.boundary := by
    rw [hframe.boundary, hframe.dataOffset]
    exact hm.dataOffset
  refine ⟨by rw [hc.address]; exact hlt, ?_⟩
  unfold Stands
  rw [memory_settle, process_settle]
  split
  · next hhalt =>
    exact ⟨hoffset, hboundary, hcounter, by simp [ControlBlock.withState],
      by simp [ControlBlock.withState], fun _ => ControlBlock.isHalted_eq_true_iff.mp hhalt⟩
  · next hhalt =>
    have hlt' := ControlBlock.isHalted_eq_false_iff.mp (Bool.eq_false_iff.mpr hhalt)
    exact ⟨hoffset, hboundary, hcounter, by simp [hstate], fun _ => hlt', by simp [hstate]⟩

lemma stands_of_failed (hm : m.Stands) (h : m.turn = (.error f, m')) : m'.Stands := by
  obtain ⟨hh, -, rfl⟩ := turn_eq_error_iff.mp h
  unfold Stands
  rw [process_afterFetch, memory_afterFetch]
  exact ControlBlock.Stands.begun hm hh

lemma Turns.stands (h : Turns m cs m') (hm : m.Stands) :
    (∀ c ∈ cs, c.address < m.process.boundary) ∧ m'.Stands := by
  have step : ∀ (m₁ : Machine) (c : Cycle) (m₂ : Machine),
      m₁.Stands ∧ m₁.process.boundary = m.process.boundary →
      m₁.turn = (.ok (some c), m₂) →
      c.address < m.process.boundary ∧ m₂.Stands ∧ m₂.process.boundary = m.process.boundary := by
    rintro m₁ c m₂ ⟨h₁, hb⟩ ht
    obtain ⟨hc, h₂⟩ := stands_of_turn h₁ ht
    exact ⟨hb ▸ hc, h₂, (frame_of_turn ht).boundary.trans hb⟩
  obtain ⟨hcs, hm', -⟩ := h.invariant step ⟨hm, rfl⟩
  exact ⟨hcs, hm'⟩

lemma Leaves.stands (h : Leaves m r m' cs) (hm : m.Stands) :
    (∀ c ∈ cs, c.address < m.process.boundary) ∧ m'.Stands := by
  cases h with
  | paused turn => simpa using stands_of_turn hm turn
  | halted run halts =>
    obtain ⟨hcs, hend⟩ := run.stands hm
    exact ⟨hcs, ControlBlock.Stands.halted hend halts⟩
  | failed run turn =>
    obtain ⟨hcs, hend⟩ := run.stands hm
    exact ⟨hcs, stands_of_failed hend turn⟩
  | exhausted run _ _ => exact run.stands hm

lemma fetchedWord_ne_outside (hm : m.Stands) (index : ℤ) (size : ℕ) :
    m.fetchedWord ≠ .error (.outside index size) := by
  have hlt : m.process.counter < m.memory.cells.size := hm.counter
  unfold fetchedWord
  simp only [Memory.read, Array.getElem?_eq_getElem hlt]
  split <;> simp

end Machine

open Machine

lemma cyclesSinceDispatch_append (t u : List Event) :
    cyclesSinceDispatch (t ++ u) = u.foldl Event.count (cyclesSinceDispatch t) := by
  simp [cyclesSinceDispatch]

namespace Kernel

variable {s s' : Kernel} {call : Call} {o : Outcome Unit} {trace : List Event} {m : Machine}

/-- What every history keeps. -/
structure Alive (s : Kernel) (trace : List Event) : Prop where
  stands : ∀ p, s.process = some p → p.Stands s.memory.size
  cycles : s.processor.cycles = cyclesSinceDispatch trace

lemma alive_init (config : Config) : Alive (init config) [] where
  stands p h := by simp [init] at h
  cycles := rfl

lemma Alive.dispatched (h : s.Alive trace) (hd : s.dispatched? = some m) : m.Stands := by
  obtain ⟨-, rfl⟩ := dispatched?_eq_some_iff.mp hd
  exact h.stands m.process rfl

lemma Alive.loaded (h : s.Alive trace) (lines : List String) (u : List Event)
    (hu : u.foldl Event.count (cyclesSinceDispatch trace) = cyclesSinceDispatch trace) :
    (s.loadLines lines).Alive (trace ++ u) where
  stands p hp := (h.stands p hp).mono (by simp [loadLines])
  cycles := by
    rw [cyclesSinceDispatch_append, hu]
    exact h.cycles

lemma Alive.scheduled (h : s.Alive trace) : s.schedule.kernel.Alive (trace ++ s.schedule.trace) where
  stands p hp := by
    have hp : ControlBlock.init _ _ = p := Option.some.inj hp
    subst hp
    exact ControlBlock.stands_init (by simpa [schedule, Memory.size] using Image.boundary_lt _)
  cycles := by
    rw [cyclesSinceDispatch_append]
    exact h.cycles

lemma Alive.redispatched (h : s.Alive trace) :
    s.dispatch.kernel.Alive (trace ++ s.dispatch.trace) := by
  rcases hp : s.process with _ | p
  · simpa [dispatch, hp] using h
  · refine ⟨fun q hq => ?_, ?_⟩
    · obtain rfl : (p.goto 0).withState .ready = q := by simpa [dispatch, hp] using hq
      simpa [dispatch, hp] using (h.stands p hp).dispatched
    · simp [cyclesSinceDispatch_append, dispatch, hp, Event.count, Processor.reset]

lemma Alive.driven (h : s.Alive trace) (hc : call = .cycle ∨ call = .run)
    (ha : s.Answers call o) : o.kernel.Alive (trace ++ o.trace) := by
  rcases answers_drive hc ha with ⟨-, rfl⟩ | ⟨m, m', cs, hd, hl, hk, ht⟩
  · simpa using h
  · obtain ⟨-, hm'⟩ := hl.stands (h.dispatched hd)
    obtain ⟨-, rfl⟩ := dispatched?_eq_some_iff.mp hd
    rw [hk]
    refine ⟨fun p hp => ?_, ?_⟩
    · obtain rfl : m'.process = p := by simpa [ofMachine] using hp
      exact hm'
    · rw [cyclesSinceDispatch_append, (cyclesOf_driven ht).2, ← h.cycles]
      exact hl.cycles

/-- Every call keeps it, whatever it answers. -/
lemma Alive.answered (h : s.Alive trace) (ha : s.Answers call o) :
    o.kernel.Alive (trace ++ o.trace) := by
  obtain ⟨limit, hl⟩ := ha
  cases call with
  | loadLines lines =>
    obtain rfl : _ = o := Option.some.inj hl
    exact h.loaded lines [] rfl
  | load path contents =>
    obtain rfl : _ = o := Option.some.inj hl
    rcases contents with e | text
    · simpa [Outcome.forget, load] using h
    · exact h.loaded _ _ rfl
  | schedule =>
    obtain rfl : _ = o := Option.some.inj hl
    exact h.scheduled
  | dispatch =>
    obtain rfl : _ = o := Option.some.inj hl
    exact h.redispatched
  | cycle => exact h.driven (.inl rfl) ⟨limit, hl⟩
  | run => exact h.driven (.inr rfl) ⟨limit, hl⟩

theorem alive_of_history {config : Config} {calls : List Call}
    (h : History (init config) calls trace s) : s.Alive trace := by
  induction h with
  | nil => exact alive_init config
  | snoc _ last ih => exact ih.answered last

/-- Cycles are completed below the boundary of the process they belong to. -/
lemma Alive.address_lt (h : s.Alive trace) (ha : s.Answers call o) {c : CellMachine.Cycle}
    (hc : c ∈ cyclesOf o.trace) : ∃ p, s.process = some p ∧ c.address < p.boundary := by
  by_cases hcall : call = .cycle ∨ call = .run
  · rcases answers_drive hcall ha with ⟨-, rfl⟩ | ⟨m, m', cs, hd, hl, hk, ht⟩
    · simp [cyclesOf] at hc
    · rw [(cyclesOf_driven ht).1] at hc
      obtain ⟨-, rfl⟩ := dispatched?_eq_some_iff.mp hd
      exact ⟨m.process, rfl, (hl.stands (h.dispatched hd)).1 c hc⟩
  · simp [cyclesOf_quiet hcall ha] at hc

end Kernel

/-- **The life cycle of a process**, in every history from a new kernel. -/
theorem process_lifecycle {config : Config} {calls : List Call} {trace : List Event} {s : Kernel}
    (h : History (.init config) calls trace s) :
    (∀ p, s.process = some p → p.Stands s.memory.size) ∧
    ((s.process = none ∨ ∃ p, s.process = some p ∧ p.state = .new) →
      s.cycle = ⟨.error .notScheduled, s, []⟩ ∧
      ∀ limit, s.run limit = some ⟨.error .notScheduled, s, []⟩) ∧
    (∀ call o, s.Answers call o → ∀ c ∈ cyclesOf o.trace,
      ∃ p, s.process = some p ∧ c.address < p.boundary) ∧
    (∀ m cs m', s.dispatched? = some m → Turns m cs m' →
      (∀ c ∈ cs, c.address < m.process.boundary) ∧ m'.process.Stands m'.memory.size ∧
      ∀ index size, m'.fetchedWord ≠ .error (.outside index size)) ∧
    s.processor.cycles = cyclesSinceDispatch trace := by
  have halive := Kernel.alive_of_history h
  refine ⟨halive.stands, fun hp => ?_, fun call o ha c hc => halive.address_lt ha hc,
    fun m cs m' hd ht => ?_, halive.cycles⟩
  · have hd := Kernel.dispatched?_eq_none_iff.mpr hp
    exact ⟨Kernel.cycle_of_not_dispatched hd, Kernel.run_of_not_dispatched hd⟩
  · obtain ⟨hcs, hm'⟩ := ht.stands (halive.dispatched hd)
    exact ⟨hcs, hm', fetchedWord_ne_outside hm'⟩

/-- A program that jumps back to itself, given up by its budget, dispatched anew, and run again. -/
theorem process_lifecycle_loop :
    ∃ trace s, History (.init { budget := some 3 })
        [.loadLines ["0x94000001", "data", "0"], .schedule, .dispatch, .run, .dispatch, .run, .cycle]
        trace s ∧
      cyclesSinceDispatch trace = 4 ∧ s.processor.cycles = 4 ∧
      ∃ p, s.process = some p ∧ p.state = .running ∧ p.Stands s.memory.size := by
  obtain ⟨⟨trace, s⟩, h, hn, p, hp, hs⟩ : ∃ r, Kernel.answerAll 0 (.init { budget := some 3 })
      [.loadLines ["0x94000001", "data", "0"], .schedule, .dispatch, .run, .dispatch, .run, .cycle]
        = some r ∧ cyclesSinceDispatch r.1 = 4 ∧ ∃ p, r.2.process = some p ∧ p.state = .running :=
    ⟨_, rfl, by decide +kernel, _, rfl, by decide +kernel⟩
  have hh := Kernel.history_of_answerAll h
  obtain ⟨hstands, -, -, -, hcycles⟩ := process_lifecycle hh
  exact ⟨trace, s, hh, hn, hcycles.trans hn, p, hp, hs, hstands p hp⟩

end CellMachine
