import Mathlib.Tactic
import CellMachine.Processor.Plan

/-!
What can be planned. Of all instructions only a store names a cell to change, and that cell lies
beyond the boundary: an address field of zero makes a store a move between registers. What reads
memory reads the data cell that its address field names, or is not planned at all. What stops a plan
is a register that the layout has no field for, a cell, a jump target, or a division by zero.
-/

namespace CellMachine

lemma bind_eq_ok {ε α β : Type} {x : Except ε α} {f : α → Except ε β} {b : β} :
    (x >>= f) = .ok b ↔ ∃ a, x = .ok a ∧ f a = .ok b := by
  cases x <;> simp [bind, Except.bind]

lemma bind_eq_error {ε α β : Type} {x : Except ε α} {f : α → Except ε β} {e : ε} :
    (x >>= f) = .error e ↔ x = .error e ∨ ∃ a, x = .ok a ∧ f a = .error e := by
  cases x <;> simp [bind, Except.bind]

lemma pure_ne_error {ε α : Type} {a : α} {e : ε} : (pure a : Except ε α) ≠ .error e := by
  simp [pure, Except.pure]

lemma pure_eq_ok {ε α : Type} {a b : α} : (pure a : Except ε α) = .ok b ↔ a = b := by
  simp [pure, Except.pure]

namespace Operation

/-- The immediate family, which reads memory whatever its address field is. -/
def isImmediate : Operation → Bool
  | movi | addi | muli | divi | ldi | slti => true
  | _ => false

def isStore : Operation → Bool
  | wr | st => true
  | _ => false

def registers : Operation → List Operand
  | hlt | nop | jmp => []
  | bez | bnz | bgz | blz => [.reg1]
  | movi | ldi | addi | muli | divi => [.reg2]
  | rd | wr | st | lw | slti | beq | bne => [.reg1, .reg2]
  | mov => [.reg1, .reg3]
  | add | sub | mul | div | and | or | slt => [.reg1, .reg2, .reg3]

end Operation

namespace Machine

variable {m : Machine} {o : Operation} {i : Instruction} {e : Effect}

/-- The effects that an instruction can be planned to have. -/
inductive Plans (m : Machine) (i : Instruction) : Effect → Prop where
  | skip : Plans m i .skip
  | setRegister (register : UInt8) (v : Int32) : Plans m i (.setRegister register v)
  | store
    (v : Int32)
    (operation : ∃ o, i.operation? = some o ∧ o.isStore = true)
    (address : i.address.isRegister = false)
    (inside : m.dataIndex i < m.memory.size) : Plans m i (.store (m.dataIndex i) v)
  | jump (target : Nat) (target_eq : m.jumpTarget i = .ok target) : Plans m i (.jump target)
  | halt (mode : m.config.halt = .terminate) : Plans m i .halt

lemma plans_of_branch {taken : Bool} (h : m.branch i taken = .ok e) : Plans m i e := by
  cases taken with
  | true =>
    simp only [branch, if_true, bind_eq_ok, pure_eq_ok] at h
    obtain ⟨target, ht, rfl⟩ := h
    exact .jump target ht
  | false =>
    simp only [branch, Bool.false_eq_true, if_false, Except.ok.injEq] at h
    exact h ▸ .skip

lemma plans_of_combine {f : Int32 → Int32 → Except Fault Int32} (h : m.combine o i f = .ok e) :
    Plans m i e := by
  simp only [combine, bind_eq_ok, pure_eq_ok] at h
  obtain ⟨target, -, a, -, b, -, v, -, rfl⟩ := h
  exact .setRegister target v

lemma adjust_eq_ok {f : Int32 → Int32 → Except Fault Int32} (h : m.adjust o i f = .ok e) :
    (∃ w, m.dataWord i = .ok w) ∧ ∃ register v, e = .setRegister register v := by
  simp only [adjust, bind_eq_ok, pure_eq_ok] at h
  obtain ⟨target, -, w, hw, v, -, rfl⟩ := h
  exact ⟨⟨w, hw⟩, target, v, rfl⟩

lemma plans_of_adjust {f : Int32 → Int32 → Except Fault Int32} (h : m.adjust o i f = .ok e) :
    Plans m i e := by
  obtain ⟨-, register, v, rfl⟩ := adjust_eq_ok h
  exact .setRegister register v

lemma plans_of_branchIf {p : Int32 → Bool} (h : m.branchIf o i p = .ok e) : Plans m i e := by
  simp only [branchIf, bind_eq_ok] at h
  obtain ⟨a, -, h⟩ := h
  exact plans_of_branch h

lemma plans_of_branchIfBoth {p : Int32 → Int32 → Bool} (h : m.branchIfBoth o i p = .ok e) :
    Plans m i e := by
  simp only [branchIfBoth, bind_eq_ok] at h
  obtain ⟨a, -, b, -, h⟩ := h
  exact plans_of_branch h

lemma plans_of_store (hi : i.operation? = some o) (ho : o.isStore = true)
    (h : m.planAs o i = .ok e) : Plans m i e := by
  cases o <;> simp [Operation.isStore] at ho
  all_goals
    simp only [planAs, bind_eq_ok] at h
    obtain ⟨source, -, h⟩ := h
    split at h
    · simp only [bind_eq_ok, pure_eq_ok] at h
      obtain ⟨target, -, rfl⟩ := h
      exact .setRegister target _
    · next hz =>
      simp only [bind_eq_ok, pure_eq_ok] at h
      obtain ⟨⟨⟩, hc, rfl⟩ := h
      exact .store _ ⟨_, hi, rfl⟩ (by simpa using hz) ((Memory.check_eq_ok_iff _ _).mp hc)

/-- **Inversion of planning.** -/
theorem plan_cases (h : m.plan i = .ok e) : Plans m i e := by
  unfold plan at h
  rcases ho : i.operation? with _ | o
  · simp only [ho, Except.ok.injEq] at h
    exact h ▸ .skip
  · simp only [ho] at h
    cases o
    -- Operations of one shape share a lemma; the others are peeled here.
    case wr | st => exact plans_of_store ho rfl h
    case add | sub | mul | div | and | slt =>
      simp only [planAs] at h
      exact plans_of_combine h
    case movi | ldi | addi | muli | divi =>
      simp only [planAs] at h
      exact plans_of_adjust h
    case bez | bnz | bgz | blz =>
      simp only [planAs] at h
      exact plans_of_branchIf h
    case beq | bne =>
      simp only [planAs] at h
      exact plans_of_branchIfBoth h
    case jmp => exact plans_of_branch h
    case nop =>
      simp only [planAs, Except.ok.injEq] at h
      exact h ▸ .skip
    case hlt =>
      simp only [planAs] at h
      split at h
      · next hm => exact (Except.ok.inj h) ▸ .halt hm
      · exact (Except.ok.inj h) ▸ .skip
    case rd | lw =>
      simp only [planAs, bind_eq_ok] at h
      obtain ⟨target, -, h⟩ := h
      split at h
      · simp only [bind_eq_ok, pure_eq_ok] at h
        obtain ⟨_, -, rfl⟩ := h
        exact .setRegister target _
      · simp only [bind_eq_ok, pure_eq_ok] at h
        obtain ⟨_, -, rfl⟩ := h
        exact .setRegister target _
    case mov =>
      simp only [planAs, bind_eq_ok, pure_eq_ok] at h
      obtain ⟨target, -, a, -, rfl⟩ := h
      exact .setRegister target _
    case or =>
      simp only [planAs, bind_eq_ok, pure_eq_ok] at h
      obtain ⟨a, -, b, -, target, -, rfl⟩ := h
      exact .setRegister target _
    case slti =>
      simp only [planAs, bind_eq_ok, pure_eq_ok] at h
      obtain ⟨target, -, a, -, w, -, rfl⟩ := h
      exact .setRegister target _

lemma dataWord_of_isImmediate (h : m.plan i = .ok e) (hi : i.operation? = some o)
    (ho : o.isImmediate = true) : ∃ w, m.dataWord i = .ok w := by
  simp only [plan, hi] at h
  cases o <;> simp [Operation.isImmediate] at ho
  case slti =>
    simp only [planAs, bind_eq_ok] at h
    obtain ⟨target, -, a, -, w, hw, -⟩ := h
    exact ⟨w, hw⟩
  all_goals
    simp only [planAs] at h
    exact (adjust_eq_ok h).1

lemma jump_of_jmp (h : m.plan i = .ok e) (hi : i.operation? = some .jmp) :
    ∃ target, e = .jump target := by
  simp only [plan, hi, planAs, branch, if_true, bind_eq_ok, pure_eq_ok] at h
  obtain ⟨target, -, rfl⟩ := h
  exact ⟨target, rfl⟩

lemma locate_eq_ok_iff (memory : Memory) (v : Int) (target : ℕ) :
    memory.locate v = .ok target ↔ v = target ∧ target < memory.size := by
  unfold Memory.locate
  split
  · simp only [Except.ok.injEq]
    omega
  · simp only [reduceCtorEq, false_iff]
    omega

lemma jumpTarget_lt {target : ℕ} (h : m.jumpTarget i = .ok target) : target < m.memory.size := by
  unfold jumpTarget at h
  split at h
  · simp only [bind_eq_ok] at h
    obtain ⟨w, -, h⟩ := h
    exact ((locate_eq_ok_iff _ _ _).mp h).2
  · exact ((locate_eq_ok_iff _ _ _).mp h).2

lemma dataWord_of_jumpTarget {target : ℕ} (h : m.jumpTarget i = .ok target)
    (hj : m.config.jumps = .indirect) : ∃ w, m.dataWord i = .ok w := by
  simp only [jumpTarget, hj, bind_eq_ok] at h
  obtain ⟨w, hw, -⟩ := h
  exact ⟨w, hw⟩

/-! ### What stops a plan -/

/-- The faults that can stop an instruction from being planned. -/
inductive Refused (i : Instruction) : Fault → Prop where
  | missingOperand (o : Operation) (operand : Operand) (operation : i.operation? = some o)
    (needed : operand ∈ o.registers) (absent : i.register? operand = none) :
    Refused i (.missingOperand o operand i.layout)
  | notData (index : ℕ) (text : String) : Refused i (.notData index text)
  | outside (index : ℤ) (size : ℕ) : Refused i (.outside index size)
  | divisionByZero : Refused i .divisionByZero

variable {f : Fault}

lemma refused_of_need {operand : Operand} (hi : i.operation? = some o)
    (hn : operand ∈ o.registers) (h : i.need o operand = .error f) : Refused i f := by
  unfold Instruction.need at h
  split at h
  · simp at h
  · next hr => exact Except.error.inj h ▸ .missingOperand o operand hi hn hr

lemma refused_of_check {memory : Memory} {index : ℕ} (h : memory.check index = .error f) :
    Refused i f := by
  unfold Memory.check at h
  split at h
  · simp at h
  · exact Except.error.inj h ▸ .outside _ _

lemma refused_of_locate {memory : Memory} {v : ℤ} (h : memory.locate v = .error f) :
    Refused i f := by
  unfold Memory.locate at h
  split at h
  · simp at h
  · exact Except.error.inj h ▸ .outside _ _

lemma refused_of_dataWord (h : m.dataWord i = .error f) : Refused i f := by
  simp only [dataWord, Memory.readWord, Memory.read] at h
  rcases hc : m.memory.cells[m.dataIndex i]? with _ | c
  · simp only [hc, Except.error.injEq] at h
    exact h ▸ .outside _ _
  · rcases hv : c.dataWord? with _ | v
    · simp only [hc, hv, Except.error.injEq] at h
      exact h ▸ .notData _ _
    · simp [hc, hv] at h

lemma refused_of_branch {taken : Bool} (h : m.branch i taken = .error f) : Refused i f := by
  cases taken with
  | false => simp [branch] at h
  | true =>
    simp only [branch, jumpTarget, if_true, bind_eq_error, pure_ne_error, and_false, exists_false,
      or_false] at h
    split at h
    · rcases bind_eq_error.mp h with h | ⟨w, -, h⟩
      · exact refused_of_dataWord h
      · exact refused_of_locate h
    · exact refused_of_locate h

lemma refused_of_divide {a b : Int32} (h : divide a b = .error f) : Refused i f := by
  unfold divide at h
  split at h
  · exact Except.error.inj h ▸ .divisionByZero
  · simp at h

lemma refused_of_combine {g : Int32 → Int32 → Except Fault Int32} (hi : i.operation? = some o)
    (hn : o.registers = [.reg1, .reg2, .reg3]) (h : m.combine o i g = .error f)
    (hg : ∀ a b, g a b = .error f → Refused i f) : Refused i f := by
  simp only [combine, bind_eq_error, pure_ne_error, and_false, exists_false, or_false] at h
  rcases h with h | ⟨_, -, h | ⟨_, -, h | ⟨_, -, h⟩⟩⟩
  · exact refused_of_need hi (by simp [hn]) h
  · exact refused_of_need hi (by simp [hn]) h
  · exact refused_of_need hi (by simp [hn]) h
  · exact hg _ _ h

lemma refused_of_adjust {g : Int32 → Int32 → Except Fault Int32} (hi : i.operation? = some o)
    (hn : o.registers = [.reg2]) (h : m.adjust o i g = .error f)
    (hg : ∀ a b, g a b = .error f → Refused i f) : Refused i f := by
  simp only [adjust, bind_eq_error, pure_ne_error, and_false, exists_false, or_false] at h
  rcases h with h | ⟨_, -, h | ⟨_, -, h⟩⟩
  · exact refused_of_need hi (by simp [hn]) h
  · exact refused_of_dataWord h
  · exact hg _ _ h

lemma refused_of_branchIf {p : Int32 → Bool} (hi : i.operation? = some o)
    (hn : o.registers = [.reg1]) (h : m.branchIf o i p = .error f) : Refused i f := by
  rcases bind_eq_error.mp h with h | ⟨a, -, h⟩
  · exact refused_of_need hi (by simp [hn]) h
  · exact refused_of_branch h

lemma refused_of_branchIfBoth {p : Int32 → Int32 → Bool} (hi : i.operation? = some o)
    (hn : o.registers = [.reg1, .reg2]) (h : m.branchIfBoth o i p = .error f) : Refused i f := by
  simp only [branchIfBoth, bind_eq_error] at h
  rcases h with h | ⟨_, -, h | ⟨_, -, h⟩⟩
  · exact refused_of_need hi (by simp [hn]) h
  · exact refused_of_need hi (by simp [hn]) h
  · exact refused_of_branch h

/-- **Inversion of a plan that fails.** -/
theorem plan_refused (h : m.plan i = .error f) : Refused i f := by
  unfold plan at h
  rcases hi : i.operation? with _ | o
  · simp [hi] at h
  · simp only [hi] at h
    cases o
    case add | sub | mul | and | slt =>
      simp only [planAs] at h
      exact refused_of_combine hi rfl h fun _ _ hg => by simp at hg
    case div =>
      simp only [planAs] at h
      exact refused_of_combine hi rfl h fun _ _ => refused_of_divide
    case movi | ldi | addi | muli =>
      simp only [planAs] at h
      exact refused_of_adjust hi rfl h fun _ _ hg => by simp at hg
    case divi =>
      simp only [planAs] at h
      exact refused_of_adjust hi rfl h fun _ _ => refused_of_divide
    case bez | bnz | bgz | blz =>
      simp only [planAs] at h
      exact refused_of_branchIf hi rfl h
    case beq | bne =>
      simp only [planAs] at h
      exact refused_of_branchIfBoth hi rfl h
    case jmp => exact refused_of_branch h
    case nop => simp [planAs] at h
    case hlt =>
      simp only [planAs] at h
      split at h <;> simp at h
    case rd | lw =>
      simp only [planAs, bind_eq_error] at h
      rcases h with h | ⟨target, -, h⟩
      · exact refused_of_need hi (by decide) h
      · split at h
        · simp only [bind_eq_error, pure_ne_error, and_false, exists_false, or_false] at h
          exact refused_of_need hi (by decide) h
        · simp only [bind_eq_error, pure_ne_error, and_false, exists_false, or_false] at h
          exact refused_of_dataWord h
    case wr | st =>
      simp only [planAs, bind_eq_error] at h
      rcases h with h | ⟨source, -, h⟩
      · exact refused_of_need hi (by decide) h
      · split at h
        · simp only [bind_eq_error, pure_ne_error, and_false, exists_false, or_false] at h
          exact refused_of_need hi (by decide) h
        · simp only [bind_eq_error, pure_ne_error, and_false, exists_false, or_false] at h
          exact refused_of_check h
    case mov =>
      simp only [planAs, bind_eq_error, pure_ne_error, and_false, exists_false, or_false] at h
      rcases h with h | ⟨target, -, h⟩
      · exact refused_of_need hi (by decide) h
      · exact refused_of_need hi (by decide) h
    case or =>
      simp only [planAs, bind_eq_error, pure_ne_error, and_false, exists_false, or_false] at h
      rcases h with h | ⟨_, -, h | ⟨_, -, h⟩⟩
      · exact refused_of_need hi (by decide) h
      · exact refused_of_need hi (by decide) h
      · exact refused_of_need hi (by decide) h
    case slti =>
      simp only [planAs, bind_eq_error, pure_ne_error, and_false, exists_false, or_false] at h
      rcases h with h | ⟨_, -, h | ⟨_, -, h⟩⟩
      · exact refused_of_need hi (by decide) h
      · exact refused_of_need hi (by decide) h
      · exact refused_of_dataWord h

/-- The layout that an operation is meant for carries all registers that it may need. -/
lemma register?_of_layout {operand : Operand} (h : o.layout = i.layout)
    (hn : operand ∈ o.registers) : i.register? operand ≠ none := by
  cases o <;> cases i <;> simp [Operation.layout, Instruction.layout] at h
  all_goals
    cases operand <;> simp [Operation.registers, Instruction.register?, Instruction.reg1?,
      Instruction.reg2?, Instruction.reg3?] at hn ⊢

end Machine

end CellMachine
