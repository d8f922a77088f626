import CellMachine.Proofs.Budgets
import CellMachine.Proofs.InstructionTable
import CellMachine.Proofs.JumpModes

/-!
Programs whose control only moves ahead. Every cycle that completes leaves the program counter
beyond its own address, by one cell unless it jumps or halts; so the cells between the counter and
the boundary bound the cycles that are left. The code that says so is never modified and goes on
saying so.
-/

namespace CellMachine

/-- Where an effect leaves the program counter of a process. -/
def Effect.lands (e : Effect) (p : ControlBlock) : ℕ :=
  match e with
  | .jump target => target
  | .halt => p.boundary
  | .skip | .setRegister _ _ | .store _ _ => p.counter + 1

namespace Machine

variable {m m' m'' : Machine} {i : Instruction} {e : Effect} {c : Cycle} {cs : List Cycle}
  {P : ℕ → Instruction → Prop}

/-! ### The code -/

def instructionAt? (m : Machine) (k : ℕ) : Option Instruction :=
  (m.memory.cells[k]?.bind Cell.instructionWord?).map .decode

/-- All instructions of the code satisfy a condition, each at its own address. -/
def Throughout (m : Machine) (P : ℕ → Instruction → Prop) : Prop :=
  ∀ k < m.process.boundary, ∀ i ∈ m.instructionAt? k, P k i

/-- Every jump of the code names an address beyond its own. -/
def JumpsAhead (m : Machine) : Prop :=
  m.Throughout fun k i => i.jumps = true → k < i.address.field.toNat

def JumpsNowhere (m : Machine) : Prop := m.Throughout fun _ i => i.jumps = false

def HaltsNowhere (m : Machine) : Prop := m.Throughout fun _ i => i.operation? ≠ some .hlt

/-- Control can only move ahead. -/
def Forward (m : Machine) : Prop := m.config.jumps = .direct ∧ m.JumpsAhead ∨ m.JumpsNowhere

/-- Control can only move to the next cell. -/
def Straight (m : Machine) : Prop :=
  m.JumpsNowhere ∧ (m.config.halt = .legacy ∨ m.HaltsNowhere)

section Decidable

variable (m : Machine)

instance [∀ k i, Decidable (P k i)] : Decidable (m.Throughout P) :=
  inferInstanceAs (Decidable (∀ k < _, _))

instance : Decidable m.JumpsAhead := inferInstanceAs (Decidable (Throughout _ _))

instance : Decidable m.JumpsNowhere := inferInstanceAs (Decidable (Throughout _ _))

instance : Decidable m.HaltsNowhere := inferInstanceAs (Decidable (Throughout _ _))

instance : Decidable m.Forward := inferInstanceAs (Decidable (_ ∨ _))

instance : Decidable m.Straight := inferInstanceAs (Decidable (_ ∧ _))

end Decidable

lemma SameCode.throughout (h : SameCode m m') (hm : m.Sealed) (hP : m.Throughout P) :
    m'.Throughout P := by
  intro k hk i hi
  rw [h.frame.boundary] at hk
  have hcell : m'.memory.cells[k]? = m.memory.cells[k]? :=
    h.cells k (by rw [hm.dataOffset]; exact hk.le)
  rw [instructionAt?, hcell] at hi
  exact hP k hk i hi

lemma SameCode.forward (h : SameCode m m') (hm : m.Sealed) (hf : m.Forward) : m'.Forward := by
  unfold Forward
  rw [h.frame.config]
  exact hf.imp (And.imp_right (h.throughout hm)) (h.throughout hm)

lemma SameCode.straight (h : SameCode m m') (hm : m.Sealed) (hs : m.Straight) : m'.Straight := by
  unfold Straight
  rw [h.frame.config]
  exact hs.imp (h.throughout hm) (Or.imp_right (h.throughout hm))

/-! ### One cycle -/

lemma tabled_of_plan (h : m.plan i = .ok e) :
    e = .skip ∨ ∃ o, i.operation? = some o ∧ e = m.tabled o i := by
  rcases ho : i.operation? with _ | o
  · rw [plan, ho] at h
    exact .inl (Except.ok.inj h).symm
  · rcases hx : i.missing? o with _ | operand
    · rw [plan_of_present ho hx] at h
      exact .inr ⟨o, rfl, tabled_of_outcome h⟩
    · rw [plan_of_missing ho hx] at h
      cases h

lemma jumps_of_plan {target : ℕ} (h : m.plan i = .ok (.jump target)) : i.jumps = true := by
  rcases tabled_of_plan h with hskip | ⟨o, ho, he⟩
  · cases hskip
  · have htakes : m.Takes o i := by
      by_contra hnot
      unfold tabled at he
      split at he
      · cases he
      · split_ifs at he
    rw [Instruction.jumps, ho]
    exact isJump_of_takes htakes

lemma target_of_plan {target : ℕ} (h : m.plan i = .ok (.jump target))
    (hj : m.config.jumps = .direct) : target = i.address.field.toNat := by
  cases plan_cases h with
  | jump _ ht =>
    simp only [jumpTarget, hj, locate_eq_ok_iff] at ht
    omega

lemma halt_of_plan (h : m.plan i = .ok .halt) :
    i.operation? = some .hlt ∧ m.config.halt = .terminate := by
  rcases tabled_of_plan h with hskip | ⟨o, ho, he⟩
  · cases hskip
  · unfold tabled at he
    split at he
    · cases he
    · split_ifs at he with _ _ hhlt
      exact ⟨hhlt.1 ▸ ho, hhlt.2⟩

/-- A completed turn executes the instruction at its address, and moves the counter as the effect
says. -/
structure Moves (m : Machine) (c : Cycle) (m' : Machine) : Prop where
  active : m.process.counter < m.process.boundary
  address : c.address = m.process.counter
  instruction : m.instructionAt? c.address = some c.instruction
  counter : m'.process.counter = c.effect.lands m.process

lemma moves_of_turn (h : m.turn = (.ok (some c), m'')) : Moves m c m'' := by
  obtain ⟨hh, m', ⟨ha, hw, hd, -, rfl⟩, rfl⟩ := turn_eq_ok_iff.mp h
  have hword : m.memory.cells[m.process.counter]?.bind Cell.instructionWord? = some c.word :=
    fetchedWord_eq_ok_iff.mp hw
  refine ⟨ControlBlock.isHalted_eq_false_iff.mp hh, ha, ?_, ?_⟩
  · rw [instructionAt?, show c.address = m.process.counter from ha, hword, hd]
    rfl
  · rw [process_settle]
    rcases c.effect with _ | _ | _ | _ | _ <;> split <;> rfl

/-- A completed turn of code that only moves ahead raises the counter. -/
lemma counter_lt_of_turn (hf : m.Forward) (h : m.turn = (.ok (some c), m'')) :
    m.process.counter < m''.process.counter := by
  obtain ⟨hactive, haddress, hinstruction, hcounter⟩ := moves_of_turn h
  obtain ⟨-, m', ⟨-, -, -, hp, -⟩, -⟩ := turn_eq_ok_iff.mp h
  have hlt : c.address < m.process.boundary := by rw [haddress]; exact hactive
  rw [hcounter]
  rcases he : c.effect with _ | _ | _ | target | _
  case jump =>
    rw [he] at hp
    have hjumps := jumps_of_plan hp
    rcases hf with ⟨hdirect, hahead⟩ | hnowhere
    · have hbeyond := hahead _ hlt _ hinstruction hjumps
      rw [haddress, ← target_of_plan hp hdirect] at hbeyond
      exact hbeyond
    · have hnone := hnowhere _ hlt _ hinstruction
      simp [hjumps] at hnone
  case halt => exact hactive
  all_goals exact Nat.lt_succ_self _

lemma counter_of_straight_turn (hs : m.Straight) (h : m.turn = (.ok (some c), m'')) :
    m''.process.counter = m.process.counter + 1 := by
  obtain ⟨hactive, haddress, hinstruction, hcounter⟩ := moves_of_turn h
  obtain ⟨-, m', ⟨-, -, -, hp, -⟩, -⟩ := turn_eq_ok_iff.mp h
  have hlt : c.address < m.process.boundary := by rw [haddress]; exact hactive
  rw [hcounter]
  rcases he : c.effect with _ | _ | _ | target | _
  case jump =>
    rw [he] at hp
    have hnone := hs.1 _ hlt _ hinstruction
    simp [jumps_of_plan hp] at hnone
  case halt =>
    rw [he] at hp
    obtain ⟨hhlt, hterminate⟩ := halt_of_plan hp
    rcases hs.2 with hlegacy | hnowhere
    · have hmode : m.config.halt = .terminate := hterminate
      simp [hmode] at hlegacy
    · exact absurd hhlt (hnowhere _ hlt _ hinstruction)
  all_goals rfl

/-! ### All cycles -/

/-- The cycles of a stretch go ahead, each beyond the one before. -/
structure Ascends (m : Machine) (cs : List Cycle) (m' : Machine) : Prop where
  sorted : (cs.map (·.address)).Pairwise (· < ·)
  from_counter : ∀ c ∈ cs, m.process.counter ≤ c.address
  length : cs.length ≤ m.process.boundary - m.process.counter
  counter : m.process.counter + cs.length ≤ m'.process.counter

/-- **Code that only moves ahead.** -/
theorem Turns.ascends (h : Turns m cs m') (hm : m.Sealed) (hf : m.Forward) : Ascends m cs m' := by
  -- The code of every later machine is that of the first one, so each step meets the same condition.
  induction h with
  | nil => exact ⟨.nil, by simp, by simp, le_rfl⟩
  | @cons m m₁ m' c cs turn _ ih =>
    have hsame := sameCode_of_turn turn
    obtain ⟨hsorted, hfrom, hlength, hcounter⟩ := ih (hsame.sealed hm) (hsame.forward hm hf)
    have hlt := counter_lt_of_turn hf turn
    have hmoves := moves_of_turn turn
    have hactive := hmoves.active
    rw [hsame.frame.boundary] at hlength
    refine ⟨?_, ?_, ?_, ?_⟩
    · refine List.pairwise_cons.mpr ⟨fun k hk => ?_, hsorted⟩
      obtain ⟨d, hd, rfl⟩ := List.mem_map.mp hk
      calc c.address = m.process.counter := hmoves.address
        _ < m₁.process.counter := hlt
        _ ≤ d.address := hfrom d hd
    · refine List.forall_mem_cons.mpr ⟨hmoves.address.ge, fun d hd => ?_⟩
      exact hlt.le.trans (hfrom d hd)
    · rw [List.length_cons]
      omega
    · rw [List.length_cons]
      omega

/-- **Straight code.** -/
theorem Turns.straight (h : Turns m cs m') (hm : m.Sealed) (hs : m.Straight) :
    cs.map (·.address) = List.range' m.process.counter cs.length ∧
      m'.process.counter = m.process.counter + cs.length := by
  induction h with
  | nil => exact ⟨rfl, rfl⟩
  | @cons m m₁ m' c cs turn _ ih =>
    have hsame := sameCode_of_turn turn
    obtain ⟨haddresses, hcounter⟩ := ih (hsame.sealed hm) (hsame.straight hm hs)
    have hnext := counter_of_straight_turn hs turn
    rw [hnext] at haddresses hcounter
    refine ⟨?_, ?_⟩
    · rw [List.map_cons, haddresses, (moves_of_turn turn).address, List.length_cons,
        List.range'_succ]
    · rw [hcounter, List.length_cons]
      omega

end Machine

open Machine Kernel

/-- **Programs whose control only moves ahead always stop.** If a ready program has direct jumps that
name addresses beyond their own, or no jumps at all, then without a budget its run halts or fails by
a fault, after at most as many completed cycles as there are instructions, at ascending addresses. If
it has no jumps and never halts by itself, a run that succeeds completes one cycle at every
address. -/
theorem forward_programs_stop {config : Config} {lines : List String} (hb : config.budget = none)
    (hf : (readyMachine config lines).Forward) :
    let n := (readyMachine config lines).process.boundary
    ∃ o, (∀ limit ≥ n, (ready config lines).run limit = some o) ∧
      ((∃ summary, o.result = .ok summary) ∨ ∃ f, o.result = .error (.fault f)) ∧
      (cyclesOf o.trace).length ≤ n ∧
      ((cyclesOf o.trace).map (·.address)).Pairwise (· < ·) ∧
      ∀ summary, o.result = .ok summary →
        summary.cycles = (cyclesOf o.trace).length ∧
        ((readyMachine config lines).Straight →
          summary.cycles = n ∧ (cyclesOf o.trace).map (·.address) = List.range n) := by
  intro n
  have hm := sealed_readyMachine config lines
  have hstart : (readyMachine config lines).process.counter = 0 := rfl
  have hd := dispatched?_ready config lines
  have hlimit : ∀ limit, (readyMachine config lines).config.budget.getD limit = limit := by
    intro limit
    have hnone : (readyMachine config lines).config.budget = none := hb
    rw [hnone, Option.getD_none]
  -- Followed for as many cycles as there are instructions, the run has halted or failed by then.
  obtain ⟨cs, -, hends⟩ := advance_ends n (readyMachine config lines) #[]
  generalize ((readyMachine config lines).advance n #[]).verdict = v at hends
  generalize ((readyMachine config lines).advance n #[]).machine = m' at hends
  cases hends with
  | halted turns length halts =>
    have hascends := turns.ascends hm hf
    have hcycles : cyclesOf (cs.map .cycle ++ [.halted cs.length m'.process.counter]) = cs :=
      (cyclesOf_driven (.inr ⟨_, _, rfl⟩)).1
    refine ⟨_, fun limit hl => run_of_halted hd turns ?_ halts, .inl ⟨_, rfl⟩, ?_, ?_, ?_⟩
    · rw [hlimit]
      exact length.trans hl
    · rw [hcycles]
      exact length
    · rw [hcycles]
      exact hascends.sorted
    · rintro _ ⟨⟩
      refine ⟨by rw [hcycles], fun hs => ?_⟩
      obtain ⟨haddresses, hcounter⟩ := turns.straight hm hs
      have hend := ControlBlock.isHalted_eq_true_iff.mp halts
      rw [turns.sameCode.frame.boundary, hcounter, hstart, Nat.zero_add] at hend
      have hall : cs.length = n := length.antisymm hend
      rw [hcycles, haddresses, hstart, hall, List.range_eq_range']
      exact ⟨rfl, rfl⟩
  | @failed m₁ _ _ f turns length turn =>
    have hcycles := cyclesOf_map_cycle cs
    refine ⟨_, fun limit hl => run_of_failed hd turns ?_ turn, .inr ⟨f, rfl⟩, ?_, ?_, ?_⟩
    · rw [hlimit]
      exact length.trans_le hl
    · rw [hcycles]
      exact length.le
    · rw [hcycles]
      exact (turns.ascends hm hf).sorted
    · rintro _ ⟨⟩
  | pending turns length goes_on =>
    have hbelow := ControlBlock.isHalted_eq_false_iff.mp goes_on
    have hcounter := (turns.ascends hm hf).counter
    rw [turns.sameCode.frame.boundary] at hbelow
    omega

/-- A branch over a cell, and a jump to the last one of four. -/
theorem forward_programs_stop_branch :
    let config : Config := { jumps := .direct }
    let lines := ["0x57100002", "0x93000000", "0x94000003", "0x93000000"]
    (readyMachine config lines).Forward ∧
      ∃ o, (∀ limit ≥ 4, (ready config lines).run limit = some o) ∧
        (cyclesOf o.trace).map (·.address) = [0, 2, 3] ∧
        ((cyclesOf o.trace).map (·.address)).Pairwise (· < ·) := by
  intro config lines
  have hf : (readyMachine config lines).Forward := by decide +kernel
  obtain ⟨o, hrun, -, -, hsorted, -⟩ := forward_programs_stop rfl hf
  have haddresses : ((ready config lines).run 4).map (fun o => (cyclesOf o.trace).map (·.address)) =
      some [0, 2, 3] := by
    decide +kernel
  have hfour : ∀ limit ≥ 4, (ready config lines).run limit = some o := hrun
  rw [hfour 4 le_rfl, Option.map_some, Option.some.injEq] at haddresses
  exact ⟨hf, o, hfour, haddresses, hsorted⟩

end CellMachine
