import CellMachine.Proofs.Planning
import CellMachine.Proofs.Turns

/-!
What a cycle depends on. A plan looks at the registers that its operation reads, at the data word
that its address field names, at the size of memory, at the target of a jump, and at what halting
does. Machines that agree on these plan the same effect, and machines that fetch the same word and
plan the same effect make the same cycle. Faults may be compared through a function that forgets a
part of them.
-/

namespace CellMachine

/-- The same answer, or faults that `blur` makes the same. -/
def Alike (blur : Fault → Fault) {α : Type} (x y : Except Fault α) : Prop :=
  x.mapError blur = y.mapError blur

namespace Alike

variable {blur : Fault → Fault} {α β : Type} {x y : Except Fault α} {f g : α → Except Fault β}

@[refl] lemma refl (x : Except Fault α) : Alike blur x x := rfl

lemma ok_iff (h : Alike blur x y) {a : α} : x = .ok a ↔ y = .ok a := by
  unfold Alike at h
  rcases x with e | a' <;> rcases y with e' | b' <;> simp_all [Except.mapError]

/-- What goes on in the same way from the same answer stays alike. -/
lemma bind (h : Alike blur x y) (hf : ∀ a, x = .ok a → Alike blur (f a) (g a)) :
    Alike blur (x >>= f) (y >>= g) := by
  rcases x with e | a
  · rcases y with e' | b
    · simpa [Alike, Except.mapError, Bind.bind, Except.bind] using h
    · simp [Alike, Except.mapError] at h
  · obtain rfl : y = .ok a := h.ok_iff.mp rfl
    exact hf a rfl

lemma bind_same (hf : ∀ a, x = .ok a → Alike blur (f a) (g a)) :
    Alike blur (x >>= f) (x >>= g) := (refl x).bind hf

lemma eq_of_id (h : Alike id x y) : x = y := by
  unfold Alike at h
  rcases x with e | a <;> rcases y with e' | b <;> simp_all [Except.mapError]

end Alike

namespace Operation

/-- The registers whose contents an operation reads; the move family reads one in place of memory if
its address field is zero. -/
def reads (o : Operation) (alternate : Bool) : List Operand :=
  match o with
  | rd => if alternate then [.reg2] else []
  | lw => if alternate then [.reg1] else []
  | wr | st | mov | slti | bez | bnz | bgz | blz => [.reg1]
  | add | sub | mul | div | and | or | slt | beq | bne => [.reg1, .reg2]
  | addi | muli | divi => [.reg2]
  | movi | ldi | hlt | nop | jmp => []

def isJump : Operation → Bool
  | jmp | beq | bne | bez | bnz | bgz | blz => true
  | _ => false

end Operation

lemma Instruction.register?_of_need {i : Instruction} {o : Operation} {operand : Operand}
    {register : UInt8} (h : i.need o operand = .ok register) :
    i.register? operand = some register := by
  unfold need at h
  split at h <;> simp_all

namespace Machine

variable {blur : Fault → Fault} {m m' : Machine} {o : Operation} {i : Instruction}

/-- Both machines hold the same in the register that an operand names, if it names one. -/
def SameAt (m m' : Machine) (i : Instruction) (operand : Operand) : Prop :=
  ∀ register, i.register? operand = some register → m.get register = m'.get register

lemma alike_branch {taken : Bool} (h : Alike blur (m.jumpTarget i) (m'.jumpTarget i)) :
    Alike blur (m.branch i taken) (m'.branch i taken) := by
  cases taken with
  | true => exact h.bind fun target _ => .refl _
  | false => exact .refl _

lemma alike_combine {f : Int32 → Int32 → Except Fault Int32} (h₁ : SameAt m m' i .reg1)
    (h₂ : SameAt m m' i .reg2) : Alike blur (m.combine o i f) (m'.combine o i f) := by
  refine .bind_same fun target _ => .bind_same fun a ha => .bind_same fun b hb => ?_
  rw [h₁ a (Instruction.register?_of_need ha), h₂ b (Instruction.register?_of_need hb)]

lemma alike_adjust {f : Int32 → Int32 → Except Fault Int32}
    (hf : ∀ register, i.register? .reg2 = some register →
      f (m.get register) = f (m'.get register))
    (hw : Alike blur (m.dataWord i) (m'.dataWord i)) :
    Alike blur (m.adjust o i f) (m'.adjust o i f) := by
  refine .bind_same fun target ht => hw.bind fun w _ => ?_
  rw [hf target (Instruction.register?_of_need ht)]

lemma alike_branchIf {p : Int32 → Bool} (h₁ : SameAt m m' i .reg1)
    (ht : Alike blur (m.jumpTarget i) (m'.jumpTarget i)) :
    Alike blur (m.branchIf o i p) (m'.branchIf o i p) := by
  refine .bind_same fun a ha => ?_
  rw [h₁ a (Instruction.register?_of_need ha)]
  exact alike_branch ht

lemma alike_branchIfBoth {p : Int32 → Int32 → Bool} (h₁ : SameAt m m' i .reg1)
    (h₂ : SameAt m m' i .reg2) (ht : Alike blur (m.jumpTarget i) (m'.jumpTarget i)) :
    Alike blur (m.branchIfBoth o i p) (m'.branchIfBoth o i p) := by
  refine .bind_same fun a ha => .bind_same fun b hb => ?_
  rw [h₁ a (Instruction.register?_of_need ha), h₂ b (Instruction.register?_of_need hb)]
  exact alike_branch ht

/-- Machines that planning an instruction does not tell apart. -/
structure Indistinct (blur : Fault → Fault) (i : Instruction) (m m' : Machine) : Prop where
  reads : ∀ o, i.operation? = some o → ∀ operand ∈ o.reads i.address.isRegister,
    SameAt m m' i operand
  index : m.dataIndex i = m'.dataIndex i
  size : m.memory.size = m'.memory.size
  word : Alike blur (m.dataWord i) (m'.dataWord i)
  target : ∀ o, i.operation? = some o → o.isJump = true →
    Alike blur (m.jumpTarget i) (m'.jumpTarget i)
  halt : m.config.halt = m'.config.halt

lemma Indistinct.alternate (h : Indistinct blur i m m') {operand : Operand} {target : UInt8}
    (hr : i.address.isRegister = true → SameAt m m' i operand) :
    Alike blur
      (if i.address.isRegister then do
        return Effect.setRegister target (m.get (← i.need o operand))
      else do return .setRegister target (← m.dataWord i))
      (if i.address.isRegister then do
        return Effect.setRegister target (m'.get (← i.need o operand))
      else do return .setRegister target (← m'.dataWord i)) := by
  by_cases hz : i.address.isRegister = true
  · simp only [hz, if_true]
    refine .bind_same fun a ha => ?_
    rw [hr hz a (Instruction.register?_of_need ha)]
  · simp only [hz, Bool.false_eq_true, if_false]
    exact h.word.bind fun w _ => .refl _

lemma Indistinct.planAs (h : Indistinct blur i m m') (hi : i.operation? = some o) :
    Alike blur (m.planAs o i) (m'.planAs o i) := by
  have hreads : ∀ operand ∈ o.reads i.address.isRegister, SameAt m m' i operand := h.reads o hi
  have htarget := h.target o hi
  -- Operations of one shape share a lemma; the others are peeled here.
  cases o
  case add | sub | mul | div | and | slt =>
    simp only [Machine.planAs]
    exact alike_combine (hreads .reg1 (by simp [Operation.reads]))
      (hreads .reg2 (by simp [Operation.reads]))
  case movi | ldi =>
    simp only [Machine.planAs]
    exact alike_adjust (fun _ _ => rfl) h.word
  case addi | muli | divi =>
    simp only [Machine.planAs]
    refine alike_adjust (fun register hr => ?_) h.word
    rw [hreads .reg2 (by simp [Operation.reads]) register hr]
  case bez | bnz | bgz | blz =>
    simp only [Machine.planAs]
    exact alike_branchIf (hreads .reg1 (by simp [Operation.reads])) (htarget rfl)
  case beq | bne =>
    simp only [Machine.planAs]
    exact alike_branchIfBoth (hreads .reg1 (by simp [Operation.reads]))
      (hreads .reg2 (by simp [Operation.reads])) (htarget rfl)
  case jmp => exact alike_branch (htarget rfl)
  case nop => exact .refl _
  case hlt =>
    simp only [Machine.planAs, h.halt]
    exact .refl _
  case rd | lw =>
    simp only [Machine.planAs]
    exact .bind_same fun target _ =>
      h.alternate fun hz => hreads _ (by simp [Operation.reads, hz])
  case wr | st =>
    simp only [Machine.planAs]
    refine .bind_same fun source hs => ?_
    have hsource := hreads .reg1 (by simp [Operation.reads]) source
      (Instruction.register?_of_need hs)
    have hcheck : m.memory.check (m.dataIndex i) = m'.memory.check (m'.dataIndex i) := by
      simp only [Memory.check, Memory.fault, h.index, h.size]
    rw [hsource, hcheck, h.index]
  case mov =>
    simp only [Machine.planAs]
    refine .bind_same fun target _ => .bind_same fun a ha => ?_
    rw [hreads .reg1 (by simp [Operation.reads]) a (Instruction.register?_of_need ha)]
  case or =>
    simp only [Machine.planAs]
    refine .bind_same fun a ha => .bind_same fun b hb => .bind_same fun target _ => ?_
    rw [hreads .reg1 (by simp [Operation.reads]) a (Instruction.register?_of_need ha),
      hreads .reg2 (by simp [Operation.reads]) b (Instruction.register?_of_need hb)]
  case slti =>
    simp only [Machine.planAs]
    refine .bind_same fun target _ => .bind_same fun a ha => h.word.bind fun w _ => ?_
    rw [hreads .reg1 (by simp [Operation.reads]) a (Instruction.register?_of_need ha)]

/-- **What a plan depends on.** -/
theorem Indistinct.plan (h : Indistinct blur i m m') : Alike blur (m.plan i) (m'.plan i) := by
  unfold Machine.plan
  rcases hi : i.operation? with _ | o
  · exact .refl _
  · exact h.planAs hi

/-! ### Machines that differ only in memory -/

lemma locate_congr {memory memory' : Memory} (size : memory.size = memory'.size) (v : ℤ) :
    memory.locate v = memory'.locate v := by
  simp only [Memory.locate, size]

/-- Machines that differ only in memory plan an instruction alike if they have memories of one size
and read the data cell alike. -/
lemma indistinct_of_memory (processor : m.processor = m'.processor)
    (process : m.process = m'.process) (size : m.memory.size = m'.memory.size)
    (word : Alike blur (m.dataWord i) (m'.dataWord i)) : Indistinct blur i m m' where
  reads o _ operand _ register _ := by simp only [get, registers, processor]
  index := by simp only [dataIndex, process]
  size := size
  word := word
  target o _ _ := by
    have hjumps : m.config.jumps = m'.config.jumps := by simp only [config, processor]
    unfold jumpTarget
    rw [hjumps]
    split
    · refine word.bind fun w _ => ?_
      rw [locate_congr size]
    · rw [locate_congr size]
  halt := by simp only [config, processor]

lemma processor_apply_congr (processor : m.processor = m'.processor) (e : Effect) :
    (m.apply e).processor = (m'.apply e).processor := by
  cases e <;> simp [apply, next, withProcess, withRegisters, withMemory, registers, processor]

lemma process_apply_congr (process : m.process = m'.process) (e : Effect) :
    (m.apply e).process = (m'.apply e).process := by
  cases e <;> simp [apply, next, withProcess, withRegisters, withMemory, process]

/-- **What a cycle depends on.** Machines that fetch the same word and plan the same effect make the
same cycle, and a relation that survives the fetch and the effect holds of what they leave. -/
theorem cycle_alike {R : Machine → Machine → Prop}
    (counter : m.process.counter = m'.process.counter)
    (fetched : Alike blur m.fetchedWord m'.fetchedWord) (stays : R m m')
    (loaded : ∀ w, m.fetchedWord = .ok w → R (m.load w) (m'.load w))
    (planned : ∀ w, m.fetchedWord = .ok w →
      Alike blur ((m.load w).plan (.decode w)) ((m'.load w).plan (.decode w)))
    (applied : ∀ w e, m.fetchedWord = .ok w → (m.load w).plan (.decode w) = .ok e →
      R ((m.load w).apply e).tick ((m'.load w).apply e).tick) :
    Alike blur m.cycle.1 m'.cycle.1 ∧ R m.cycle.2 m'.cycle.2 := by
  rw [cycle_eq, cycle_eq]
  rcases hw : m.fetchedWord with f | w
  · rcases hw' : m'.fetchedWord with f' | w'
    · rw [hw, hw'] at fetched
      exact ⟨by simpa [Alike, Except.mapError] using fetched, stays⟩
    · rw [fetched.ok_iff.mpr hw'] at hw
      simp at hw
  · have hw' := fetched.ok_iff.mp hw
    have hplan := planned w hw
    simp only [hw']
    rcases he : (m.load w).plan (.decode w) with f | e
    · rcases he' : (m'.load w).plan (.decode w) with f' | e'
      · rw [he, he'] at hplan
        exact ⟨by simpa [Alike, Except.mapError] using hplan, loaded w hw⟩
      · rw [hplan.ok_iff.mpr he'] at he
        simp at he
    · have he' := hplan.ok_iff.mp he
      simp only [he', counter]
      exact ⟨.refl _, applied w e hw he⟩

end Machine

end CellMachine
