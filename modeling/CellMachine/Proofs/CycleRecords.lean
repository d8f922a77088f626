import CellMachine.Proofs.Failures
import CellMachine.Proofs.Spelling

/-!
The records of cycles are a complete log. A record names the cell that was fetched, its word and the
effect of the instruction; replayed on the machine that the first cycle began at, the records make
the machine that the last one left. So whatever they do not name is as it was.
-/

namespace CellMachine

namespace Cycle

lemma register_mod_lt (register : UInt8) : register.toNat % 16 < 16 := Nat.mod_lt _ (by decide)

/-- The registers once the recorded word has been fetched. -/
def onFetch (c : Cycle) (r : Registers) : Registers :=
  match r.slot with
  | .general => { r with general := r.general.set 2 c.word.toInt32 }
  | .dedicated => { r with dedicated := c.word }

/-- The registers after a recorded cycle. The word was fetched before the effect, so a write to the
register that holds it stays. -/
def onRegisters (c : Cycle) (r : Registers) : Registers :=
  match c.effect with
  | .setRegister register v =>
    { c.onFetch r with
      general := (c.onFetch r).general.set (register.toNat % 16) v (register_mod_lt register) }
  | .skip | .store _ _ | .jump _ | .halt => c.onFetch r

def onMemory (c : Cycle) (memory : Memory) : Memory :=
  match c.effect with
  | .store index v => ⟨memory.cells.setIfInBounds index ⟨toString v.toInt⟩⟩
  | .skip | .setRegister _ _ | .jump _ | .halt => memory

/-- The program counter after a recorded cycle of a process with the given boundary. -/
def onCounter (c : Cycle) (boundary : ℕ) : ℕ :=
  match c.effect with
  | .jump target => target
  | .halt => boundary
  | .skip | .setRegister _ _ | .store _ _ => c.address + 1

/-- What the record of a cycle says of the machine at which the cycle began. -/
structure Records (c : Cycle) (m : Machine) : Prop where
  address : c.address = m.process.counter
  word : m.memory.cells[c.address]?.bind Cell.instructionWord? = some c.word
  instruction : c.instruction = .decode c.word
  inside : ∀ index v, c.effect = .store index v → index < m.memory.cells.size

end Cycle

lemma Cell.ofWord_eq (v : Int32) : Cell.ofWord v = ⟨toString v.toInt⟩ := by
  have hdecimal : String.ofList (Numeral.decimal v.toInt) = toString v.toInt := by
    cases v.toInt with
    | ofNat n => rfl
    | negSucc n =>
      have hminus : toString (Int.negSucc n) = "-" ++ Nat.repr (n + 1) := rfl
      rw [hminus, ← String.toList_inj, String.toList_ofList, String.toList_append, Nat.toList_repr]
      rfl
  rw [Cell.ofWord, hdecimal]

namespace Machine

variable {m m' m'' : Machine} {c : Cycle} {cs ds : List Cycle} {n : ℕ}

def replay (m : Machine) (c : Cycle) : Machine where
  processor :=
    ⟨c.onRegisters m.processor.registers, m.processor.config, m.processor.cycles + 1⟩
  process := { m.process with counter := c.onCounter m.process.boundary }
  memory := c.onMemory m.memory

/-! ### Completed cycles are replayed -/

lemma Completes.records (h : Completes m c m') : c.Records m where
  address := h.address
  word := by
    rw [h.address]
    exact fetchedWord_eq_ok_iff.mp h.fetched
  instruction := h.decoded
  inside index v he := by
    have hp := h.planned
    rw [he] at hp
    have hlt := plan_store_lt hp
    rwa [memory_load] at hlt

/-- **A completed cycle is its replay.** -/
lemma Completes.replay (h : Completes m c m') : m' = m.replay c := by
  obtain ⟨haddress, -, -, -, rfl⟩ := h
  obtain ⟨address, word, instruction, effect⟩ := c
  obtain rfl : address = m.process.counter := haddress
  cases effect with
  | skip | setRegister | jump | halt => rfl
  | store index v =>
    simp only [apply, Cell.ofWord_eq]
    rfl

lemma attempts_succ_eq_ok (h : (m.attempts (n + 1)).1 = cs.map .ok) :
    ∃ c ds, cs = c :: ds ∧ Completes m c (m.replay c) ∧ ((m.replay c).attempts n).1 = ds.map .ok ∧
      ∀ k, m.attempts (k + 1) =
        (.ok c :: ((m.replay c).attempts k).1, ((m.replay c).attempts k).2) := by
  have hsplit : ∀ k, m.attempts (k + 1) =
      (m.cycle.1 :: (m.cycle.2.attempts k).1, (m.cycle.2.attempts k).2) := fun _ => rfl
  rw [hsplit] at h
  obtain ⟨c, ds, rfl, hc, hds⟩ := List.map_eq_cons_iff.mp h.symm
  have hcompletes : Completes m c m.cycle.2 := cycle_eq_ok_iff.mp (by rw [hc])
  have hnext : m.cycle.2 = m.replay c := hcompletes.replay
  rw [hnext] at hcompletes hds
  exact ⟨c, ds, rfl, hcompletes, hds.symm, fun k => by rw [hsplit, hnext, hc]⟩

/-- **Completed cycles leave what their records make.** -/
theorem attempts_eq_replay (h : (m.attempts n).1 = cs.map .ok) :
    (m.attempts n).2 = cs.foldl replay m := by
  induction n generalizing m cs with
  | zero =>
    obtain rfl : cs = [] := List.map_eq_nil_iff.mp h.symm
    rfl
  | succ n ih =>
    obtain ⟨c, ds, rfl, -, hds, hnext⟩ := attempts_succ_eq_ok h
    rw [hnext, List.foldl_cons]
    exact ih hds

/-- Every record tells what the machine was when its cycle began. -/
theorem records_of_attempts (h : (m.attempts n).1 = cs.map .ok) {k : ℕ} (hk : cs[k]? = some c) :
    c.Records (m.attempts k).2 := by
  induction n generalizing m cs k with
  | zero =>
    obtain rfl : cs = [] := List.map_eq_nil_iff.mp h.symm
    simp at hk
  | succ n ih =>
    obtain ⟨d, ds, rfl, hcompletes, hds, hnext⟩ := attempts_succ_eq_ok h
    cases k with
    | zero =>
      obtain rfl : d = c := by simpa using hk
      exact hcompletes.records
    | succ k =>
      rw [hnext]
      exact ih hds (by simpa using hk)

lemma attempts_take (h : (m.attempts n).1 = cs.map .ok) {k : ℕ} (hk : k ≤ n) :
    (m.attempts k).1 = (cs.take k).map .ok := by
  induction n generalizing m cs k with
  | zero =>
    obtain rfl : k = 0 := Nat.le_zero.mp hk
    simp [attempts]
  | succ n ih =>
    obtain ⟨c, ds, rfl, -, hds, hnext⟩ := attempts_succ_eq_ok h
    cases k with
    | zero => simp [attempts]
    | succ k =>
      rw [hnext, ih hds (Nat.le_of_succ_le_succ hk)]
      rfl

/-! ### What a log does not name -/

/-- What the replay of a log leaves alone. -/
structure Untouched (m : Machine) (cs : List Cycle) (m' : Machine) : Prop where
  process : m'.process = { m.process with counter := m'.process.counter }
  config : m'.processor.config = m.processor.config
  slot : m'.processor.registers.slot = m.processor.registers.slot
  size : m'.memory.cells.size = m.memory.cells.size
  cycles : m'.processor.cycles = m.processor.cycles + cs.length
  general : ∀ (k : ℕ) (hk : k < 16), ¬(m.processor.registers.slot = .general ∧ k = 2) →
    (∀ c ∈ cs, ∀ register v, c.effect = .setRegister register v → register.toNat % 16 ≠ k) →
    m'.processor.registers.general[k] = m.processor.registers.general[k]
  dedicated : m.processor.registers.slot = .general →
    m'.processor.registers.dedicated = m.processor.registers.dedicated
  cells : ∀ k : ℕ, (∀ c ∈ cs, ∀ v, c.effect ≠ .store k v) →
    m'.memory.cells[k]? = m.memory.cells[k]?

section Replay

variable {r : Registers} {k : ℕ}

lemma slot_onRegisters (c : Cycle) (r : Registers) : (c.onRegisters r).slot = r.slot := by
  have hfetch : (c.onFetch r).slot = r.slot := by
    rw [Cycle.onFetch]
    split <;> rfl
  rw [Cycle.onRegisters]
  split <;> exact hfetch

lemma dedicated_onRegisters (c : Cycle) (h : r.slot = .general) :
    (c.onRegisters r).dedicated = r.dedicated := by
  have hfetch : (c.onFetch r).dedicated = r.dedicated := by
    simp only [Cycle.onFetch, h]
  rw [Cycle.onRegisters]
  split <;> exact hfetch

lemma general_onRegisters (hk : k < 16) (hword : ¬(r.slot = .general ∧ k = 2))
    (hset : ∀ register v, c.effect = .setRegister register v → register.toNat % 16 ≠ k) :
    (c.onRegisters r).general[k] = r.general[k] := by
  have hfetch : (c.onFetch r).general[k] = r.general[k] := by
    rcases hs : r.slot with _ | _
    · have hne : 2 ≠ k := fun e => hword ⟨hs, e.symm⟩
      simp only [Cycle.onFetch, hs, Vector.getElem_set, hne, if_false]
    · simp only [Cycle.onFetch, hs]
  rcases he : c.effect with _ | ⟨register, v⟩ | _ | _ | _
  · simpa only [Cycle.onRegisters, he] using hfetch
  · simpa only [Cycle.onRegisters, he, Vector.getElem_set, hset register v he, if_false] using hfetch
  all_goals simpa only [Cycle.onRegisters, he] using hfetch

end Replay

lemma untouched_replay (m : Machine) (c : Cycle) : Untouched m [c] (m.replay c) where
  process := rfl
  config := rfl
  slot := slot_onRegisters c _
  size := by
    simp only [replay, Cycle.onMemory]
    split <;> simp
  cycles := rfl
  general k hk hword hset := general_onRegisters hk hword fun register v he =>
    hset c (by simp) register v he
  dedicated hs := dedicated_onRegisters c hs
  cells k hk := by
    simp only [replay, Cycle.onMemory]
    split
    · next index v he =>
      have hne : index ≠ k := by
        rintro rfl
        exact hk c (by simp) v he
      simp [hne]
    all_goals rfl

lemma Untouched.trans (h : Untouched m cs m') (h' : Untouched m' ds m'') :
    Untouched m (cs ++ ds) m'' where
  process := by
    rw [h'.process, h.process]
  config := h'.config.trans h.config
  slot := h'.slot.trans h.slot
  size := h'.size.trans h.size
  cycles := by
    rw [h'.cycles, h.cycles, List.length_append, Nat.add_assoc]
  general k hk hword hset := by
    have hds := h'.general k hk (by rwa [h.slot]) fun c hc => hset c (by simp [hc])
    exact hds.trans (h.general k hk hword fun c hc => hset c (by simp [hc]))
  dedicated hs := (h'.dedicated (h.slot.trans hs)).trans (h.dedicated hs)
  cells k hk := by
    have hds := h'.cells k fun c hc => hk c (by simp [hc])
    exact hds.trans (h.cells k fun c hc => hk c (by simp [hc]))

/-- **What no record names is as it was.** -/
theorem untouched_log (m : Machine) (cs : List Cycle) : Untouched m cs (cs.foldl replay m) := by
  induction cs generalizing m with
  | nil => exact ⟨rfl, rfl, rfl, rfl, rfl, fun _ _ _ _ => rfl, fun _ => rfl, fun _ _ => rfl⟩
  | cons c cs ih => exact (untouched_replay m c).trans (ih (m.replay c))

end Machine

open Machine

/-- **The records of cycles are a complete log.** If `n` cycles in a row all complete, each record
names the program counter at which its cycle began, the instruction word that the cell there held,
and the instruction that the word decodes to, wherever fetched words go. At every moment the machine
is what the records so far make of the one at the start: each loads its word, changes one register
or one cell or neither, moves the program counter and adds one to the cycle count. What none of them
names is as it was. -/
theorem cycle_records_complete {m : Machine} {n : ℕ} {cs : List Cycle}
    (h : (m.attempts n).1 = cs.map .ok) :
    (∀ (k : ℕ) (c : Cycle), cs[k]? = some c → c.Records (m.attempts k).2) ∧
      (∀ k ≤ n, (m.attempts k).2 = (cs.take k).foldl replay m) ∧
      (m.attempts n).2 = cs.foldl replay m ∧
      Untouched m cs (m.attempts n).2 := by
  have hend := attempts_eq_replay h
  refine ⟨fun k c hk => records_of_attempts h hk, fun k hk => ?_, hend, ?_⟩
  · exact attempts_eq_replay (attempts_take h hk)
  · rw [hend]
    exact untouched_log m cs

/-- A process whose data begins at its first cell copies a data word over its last instruction,
where it is fetched as one. Its fetched words go to register 2. -/
theorem cycle_records_complete_overwritten :
    let m : Machine := ⟨.init {}, ⟨0, 3, 0, .ready⟩,
      .ofLines ["0x4B010003", "0x42100002", "data", "0x12000000"]⟩
    let cs : List Cycle :=
      [⟨0, 0x4B010003, .decode 0x4B010003, .setRegister 1 0x12000000⟩,
        ⟨1, 0x42100002, .decode 0x42100002, .store 2 0x12000000⟩,
        ⟨2, 0x12000000, .decode 0x12000000, .halt⟩]
    (m.attempts 3).1 = cs.map .ok ∧ (m.attempts 3).2 = cs.foldl replay m ∧
      (m.attempts 3).2.memory.texts = ["0x4B010003", "0x42100002", "301989888", "0x12000000"] ∧
      (m.attempts 3).2.memory.cells[0]? = m.memory.cells[0]? ∧
      (m.attempts 3).2.processor.registers.general[1] = 301989888 ∧
      (m.attempts 3).2.processor.registers.general[7] = m.processor.registers.general[7] := by
  intro m cs
  have h : (m.attempts 3).1 = cs.map .ok := by decide +kernel
  obtain ⟨-, -, hend, huntouched⟩ := cycle_records_complete h
  refine ⟨h, hend, by decide +kernel, huntouched.cells 0 ?_, by decide +kernel,
    huntouched.general 7 (by decide) (by decide) ?_⟩
  · simp [cs]
  · simp [cs]

end CellMachine
