import Mathlib.Tactic
import CellMachine.Proofs.Dependence

/-!
The instruction table. A row of it says of an operation which registers it needs, what it does with
the data cell that its address field names, which register it sets and to which integer, by what it
divides, and when it jumps. The entries speak of integers; words wrap around only when they are
written. An instruction has the effect that its row gives it, and it is stopped by a register that
its layout lacks, else by the data cell or the target of its jump, else by a division by zero, and by
nothing else.
-/

namespace CellMachine

/-! ### The columns -/

inductive Access where
  | nothing
  | read
  | write
deriving DecidableEq, Repr

namespace Operation

/-- The registers that an operation needs, in the order in which they are looked for. The move family
needs a second one in place of memory. -/
def needs (o : Operation) (alternate : Bool) : List Operand :=
  match o with
  | rd | wr | st => if alternate then [.reg1, .reg2] else [.reg1]
  | lw => if alternate then [.reg2, .reg1] else [.reg2]
  | mov => [.reg3, .reg1]
  | add | sub | mul | div | and | slt => [.reg3, .reg1, .reg2]
  | or => [.reg1, .reg2, .reg3]
  | movi | ldi | addi | muli | divi => [.reg2]
  | slti => [.reg2, .reg1]
  | hlt | nop | jmp => []
  | beq | bne => [.reg1, .reg2]
  | bez | bnz | bgz | blz => [.reg1]

def access (o : Operation) (alternate : Bool) : Access :=
  match o with
  | rd | lw => if alternate then .nothing else .read
  | wr | st => if alternate then .nothing else .write
  | movi | ldi | addi | muli | divi | slti => .read
  | _ => .nothing

def destination? (o : Operation) (alternate : Bool) : Option Operand :=
  match o with
  | rd => some .reg1
  | wr | st => if alternate then some .reg2 else none
  | lw | movi | ldi | addi | muli | divi | slti => some .reg2
  | mov | add | sub | mul | div | and | or | slt => some .reg3
  | _ => none

/-- What an operation writes, from the contents `a` and `b` of its first two registers and the data
word `w`. -/
def value (o : Operation) (alternate : Bool) (a b w : ℤ) : ℤ :=
  match o with
  | rd => if alternate then b else w
  | lw => if alternate then a else w
  | wr | st | mov => a
  | add => a + b
  | sub => a - b
  | mul => a * b
  | div => a.tdiv b
  | and => if a = b then 1 else 0
  | or => if a = 1 ∨ b = 1 then 1 else 0
  | slt => if a < b then 1 else 0
  | movi | ldi => w
  | addi => b + w
  | muli => b * w
  | divi => b.tdiv w
  | slti => if a < w then 1 else 0
  | _ => 0

/-- What an operation divides by, from its second register and the data word, if there is one. -/
def divisor? (o : Operation) (b : ℤ) (w : Option ℤ) : Option ℤ :=
  match o with
  | div => some b
  | divi => w
  | _ => none

def jumpsOn (o : Operation) (a b : ℤ) : Bool :=
  match o with
  | jmp => true
  | beq => a = b
  | bne => a ≠ b
  | bez => a = 0
  | bnz => a ≠ 0
  | bgz => 0 < a
  | blz => a < 0
  | _ => false

section Jumps

variable {o : Operation} (h : o.isJump = true)

include h

lemma access_of_isJump (alternate : Bool) : o.access alternate = .nothing := by
  cases o <;> first | rfl | cases h

lemma destination?_of_isJump (alternate : Bool) : o.destination? alternate = none := by
  cases o <;> first | rfl | cases h

lemma divisor?_of_isJump (b : ℤ) (w : Option ℤ) : o.divisor? b w = none := by
  cases o <;> first | rfl | cases h

end Jumps

lemma isJump_of_jumpsOn {o : Operation} {a b : ℤ} (h : o.jumpsOn a b = true) : o.isJump = true := by
  cases o <;> first | rfl | cases h

end Operation

namespace Instruction

variable (i : Instruction) (o : Operation)

/-- The first register that operation `o` needs and the layout has no field for. -/
def missing? : Option Operand :=
  (o.needs i.address.isRegister).find? fun operand => (i.register? operand).isNone

/-- The register that an operand names; the first one if it names none. -/
def named (operand : Operand) : UInt8 := (i.register? operand).getD 0

end Instruction

/-! ### The table of a machine -/

namespace Machine

variable (m : Machine) (o : Operation) (i : Instruction)

def content (operand : Operand) : ℤ := (m.get (i.named operand)).toInt

def dataCell? : Option Cell := m.memory.cells[m.dataIndex i]?

def word? : Option ℤ := ((m.dataCell? i).bind Cell.dataWord?).map Int32.toInt

def Takes : Prop := o.jumpsOn (m.content i .reg1) (m.content i .reg2) = true

/-- The data cell is read, for an operand or for the target of a jump. -/
def Reads : Prop :=
  o.access i.address.isRegister = .read ∨ m.Takes o i ∧ m.config.jumps = .indirect

def Writes : Prop := o.access i.address.isRegister = .write

/-- Where a jump aims: at the data word, or at the address field. -/
def target? : Option ℤ :=
  match m.config.jumps with
  | .indirect => m.word? i
  | .direct => some i.address.field.toNat

/-- What stops an instruction that lacks no register. -/
inductive Faulty : Fault → Prop where
  | cell (uses : m.Reads o i ∨ Writes o i) (outside : m.memory.size ≤ m.dataIndex i) :
    Faulty (.outside (Memory.shownIndex (m.dataIndex i)) m.memory.size)
  | word {cell : Cell} (reads : m.Reads o i) (here : m.dataCell? i = some cell)
    (garbled : cell.dataWord? = none) : Faulty (.notData (m.dataIndex i) cell.text)
  | target {t : ℤ} (takes : m.Takes o i) (aims : m.target? i = some t)
    (outside : t < 0 ∨ m.memory.size ≤ t) : Faulty (.outside t m.memory.size)
  | zero (divides : o.divisor? (m.content i .reg2) (m.word? i) = some 0) : Faulty .divisionByZero

/-- What the row of an operation makes of its operands, as a word. -/
def result : Int32 :=
  .ofInt (o.value i.address.isRegister (m.content i .reg1) (m.content i .reg2) ((m.word? i).getD 0))

instance : Decidable (m.Takes o i) := inferInstanceAs (Decidable (_ = _))

instance : Decidable (Writes o i) := inferInstanceAs (Decidable (_ = _))

def tabled : Effect :=
  match o.destination? i.address.isRegister with
  | some operand => .setRegister (i.named operand) (m.result o i)
  | none =>
    if Writes o i then .store (m.dataIndex i) (m.result o i)
    else if m.Takes o i then .jump ((m.target? i).getD 0).toNat
    else if o = .hlt ∧ m.config.halt = .terminate then .halt
    else .skip

/-- What the table says becomes of an instruction. -/
inductive Answers : Except Fault Effect → Prop where
  | undefined (opcode : i.operation? = none) : Answers (.ok .skip)
  | missing {o : Operation} {operand : Operand} (operation : i.operation? = some o)
    (missing : i.missing? o = some operand) : Answers (.error (.missingOperand o operand i.layout))
  | faulty {o : Operation} {f : Fault} (operation : i.operation? = some o)
    (present : i.missing? o = none) (faulty : m.Faulty o i f) : Answers (.error f)
  | effect {o : Operation} (operation : i.operation? = some o) (present : i.missing? o = none)
    (faultless : ∀ f, ¬ m.Faulty o i f) : Answers (.ok (m.tabled o i))

end Machine

/-! ### Registers first -/

namespace Instruction

variable {i : Instruction} {o : Operation}

/-- The registers that are needed, looked for one after another. -/
def required (i : Instruction) (o : Operation) : List Operand → Except Fault Unit
  | [] => .ok ()
  | operand :: rest => do
    let _ ← i.need o operand
    i.required o rest

section Needs

variable {α : Type}

/-- What follows a register that is needed may know it by its name. -/
lemma need_bind (operand : Operand) (k : UInt8 → Except Fault α) :
    (i.need o operand >>= k) = i.need o operand >>= fun _ => k (i.named operand) := by
  unfold need named
  rcases i.register? operand with _ | register <;> rfl

lemma required_cons (operand : Operand) (rest : List Operand) (k : Except Fault α) :
    (i.required o (operand :: rest) >>= fun _ => k) =
      i.need o operand >>= fun _ => i.required o rest >>= fun _ => k := by
  rw [required, bind_assoc]

lemma need_one (x : Operand) (k : UInt8 → Except Fault α) :
    (i.need o x >>= k) = i.required o [x] >>= fun _ => k (i.named x) := by
  rw [required_cons, need_bind]
  rfl

lemma need_two (x y : Operand) (k : UInt8 → UInt8 → Except Fault α) :
    (i.need o x >>= fun a => i.need o y >>= k a) =
      i.required o [x, y] >>= fun _ => k (i.named x) (i.named y) := by
  rw [required_cons, need_bind]
  exact bind_congr fun _ => need_one y _

lemma need_three (x y z : Operand) (k : UInt8 → UInt8 → UInt8 → Except Fault α) :
    (i.need o x >>= fun a => i.need o y >>= fun b => i.need o z >>= k a b) =
      i.required o [x, y, z] >>= fun _ => k (i.named x) (i.named y) (i.named z) := by
  rw [required_cons, need_bind]
  exact bind_congr fun _ => need_two y z _

end Needs

lemma required_eq (i : Instruction) (o : Operation) (operands : List Operand) :
    i.required o operands =
      match operands.find? fun operand => (i.register? operand).isNone with
      | some operand => .error (.missingOperand o operand i.layout)
      | none => .ok () := by
  induction operands with
  | nil => rfl
  | cons operand rest ih =>
    rcases hr : i.register? operand with _ | register
    · simp [required, need, hr, bind, Except.bind]
    · simp [required, need, hr, bind, Except.bind, ih]

end Instruction

/-! ### Then the data cell, the divisor and the target -/

section Words

variable (a b : Int32)

lemma toInt_eq_zero_iff : a.toInt = 0 ↔ a = 0 := by
  rw [← Int32.toInt_inj]
  rfl

lemma toInt_eq_one_iff : a.toInt = 1 ↔ a = 1 := by
  rw [← Int32.toInt_inj]
  rfl

lemma flag_eq {b : Bool} {p : Prop} [Decidable p] (h : b = true ↔ p) :
    flag b = Int32.ofInt (if p then 1 else 0) := by
  by_cases hp : p
  · simp [flag, hp, h.mpr hp]
  · have hb : b = false := Bool.eq_false_iff.mpr fun hb => hp (h.mp hb)
    simp [flag, hp, hb]

lemma ofInt_tdiv_toInt : Int32.ofInt (a.toInt.tdiv b.toInt) = a / b := by
  apply Int32.toInt_inj.mp
  rw [Int32.toInt_ofInt, Int32.toInt_div]

end Words

namespace Machine

variable {m : Machine} {o : Operation} {i : Instruction}

lemma dataWord_eq_ok_iff {w : Int32} :
    m.dataWord i = .ok w ↔ (m.dataCell? i).bind Cell.dataWord? = some w := by
  unfold dataWord dataCell? Memory.readWord Memory.read
  rcases hc : m.memory.cells[m.dataIndex i]? with _ | cell
  · simp
  · rcases hw : cell.dataWord? with _ | v <;> simp [hw]

lemma dataWord_eq_error_iff {f : Fault} :
    m.dataWord i = .error f ↔
      m.dataCell? i = none ∧ f = m.memory.fault (m.dataIndex i) ∨
        ∃ cell, m.dataCell? i = some cell ∧ cell.dataWord? = none ∧
          f = .notData (m.dataIndex i) cell.text := by
  unfold dataWord dataCell? Memory.readWord Memory.read
  rcases hc : m.memory.cells[m.dataIndex i]? with _ | cell
  · simp [eq_comm]
  · rcases hw : cell.dataWord? with _ | v <;> simp [hw, eq_comm]

lemma isJump_of_takes (h : m.Takes o i) : o.isJump = true := Operation.isJump_of_jumpsOn h

/-- The data cell as an operation uses it. -/
def consulted (m : Machine) (o : Operation) (i : Instruction) : Except Fault Unit :=
  match o.access i.address.isRegister with
  | .nothing => .ok ()
  | .read => (m.dataWord i).map fun _ => ()
  | .write => m.memory.check (m.dataIndex i)

/-- What becomes of an instruction whose registers and data cell are there. -/
def finished (m : Machine) (o : Operation) (i : Instruction) : Except Fault Effect :=
  if o.divisor? (m.content i .reg2) (m.word? i) = some 0 then .error .divisionByZero
  else if m.Takes o i then (m.jumpTarget i).map .jump
  else .ok (m.tabled o i)

def outcome (m : Machine) (o : Operation) (i : Instruction) : Except Fault Effect :=
  m.consulted o i >>= fun _ => m.finished o i

lemma outcome_of_nothing (h : o.access i.address.isRegister = .nothing) :
    m.outcome o i = m.finished o i := by
  rw [outcome, consulted, h]
  rfl

lemma outcome_of_read (h : o.access i.address.isRegister = .read) {k : Int32 → Except Fault Effect}
    (hk : ∀ w, m.word? i = some w.toInt → k w = m.finished o i) :
    (m.dataWord i >>= k) = m.outcome o i := by
  rw [outcome, consulted, h]
  rcases hw : m.dataWord i with f | w
  · rfl
  · have hword : m.word? i = some w.toInt := by
      rw [word?, dataWord_eq_ok_iff.mp hw]
      rfl
    exact hk w hword

lemma finished_of_value {operand : Operand}
    (hd : o.destination? i.address.isRegister = some operand) (hj : o.isJump = false)
    (hz : o.divisor? (m.content i .reg2) (m.word? i) = none) :
    m.finished o i = .ok (.setRegister (i.named operand) (m.result o i)) := by
  have htakes : ¬ m.Takes o i := fun h => by simp [isJump_of_takes h] at hj
  rw [finished, hz, if_neg (Option.some_ne_none 0).symm, if_neg htakes, tabled, hd]

lemma outcome_of_jump {taken : Bool} (hj : o.isJump = true) (ht : taken = true ↔ m.Takes o i) :
    m.branch i taken = m.outcome o i := by
  have hzero : o.divisor? (m.content i .reg2) (m.word? i) ≠ some 0 := by
    simp [Operation.divisor?_of_isJump hj]
  rw [outcome_of_nothing (Operation.access_of_isJump hj _), finished, if_neg hzero]
  cases taken with
  | true =>
    rw [if_pos (ht.mp rfl)]
    rfl
  | false =>
    have htakes : ¬ m.Takes o i := fun h => by simpa using ht.mpr h
    have hhlt : o ≠ .hlt := by
      rintro rfl
      cases hj
    have htabled : m.tabled o i = .skip := by
      simp [tabled, Operation.destination?_of_isJump hj, Writes, Operation.access_of_isJump hj,
        htakes, hhlt]
    rw [if_neg htakes, htabled]
    rfl

/-! ### Every operation -/

variable (m o i)

/-- A plan looks for the registers first and then follows its row. -/
def Follows : Prop :=
  m.planAs o i = i.required o (o.needs i.address.isRegister) >>= fun _ => m.outcome o i

variable {m o i}

/-- The word that a division by a divisor other than zero yields. -/
lemma divide_map (a b : Int32) (register : UInt8) :
    (divide a b).map (Effect.setRegister register) =
      if b.toInt = 0 then .error .divisionByZero
      else .ok (.setRegister register (.ofInt (a.toInt.tdiv b.toInt))) := by
  rw [divide, ofInt_tdiv_toInt]
  by_cases hb : b = 0
  · simp [hb, Except.map]
  · simp [hb, toInt_eq_zero_iff, Except.map]

lemma follows_combine {f : Int32 → Int32 → Int32}
    (hp : m.planAs o i = m.combine o i fun a b => .ok (f a b))
    (hn : o.needs i.address.isRegister = [.reg3, .reg1, .reg2])
    (ha : o.access i.address.isRegister = .nothing)
    (hd : o.destination? i.address.isRegister = some .reg3) (hj : o.isJump = false)
    (hz : o.divisor? (m.content i .reg2) (m.word? i) = none)
    (hf : f (m.get (i.named .reg1)) (m.get (i.named .reg2)) = m.result o i) : m.Follows o i := by
  rw [Follows, hp, hn, outcome_of_nothing ha, finished_of_value hd hj hz, ← hf]
  exact Instruction.need_three ..

lemma follows_adjust {f : Int32 → Int32 → Int32}
    (hp : m.planAs o i = m.adjust o i fun a w => .ok (f a w))
    (hn : o.needs i.address.isRegister = [.reg2])
    (ha : o.access i.address.isRegister = .read)
    (hd : o.destination? i.address.isRegister = some .reg2) (hj : o.isJump = false)
    (hz : o.divisor? (m.content i .reg2) (m.word? i) = none)
    (hf : ∀ w, m.word? i = some w.toInt → f (m.get (i.named .reg2)) w = m.result o i) :
    m.Follows o i := by
  have hread : (m.dataWord i >>= fun w => .ok (.setRegister (i.named .reg2)
      (f (m.get (i.named .reg2)) w))) = m.outcome o i :=
    outcome_of_read ha fun w hw => by rw [finished_of_value hd hj hz, hf w hw]
  rw [Follows, hp, hn, ← hread]
  exact Instruction.need_one ..

/-- An operation of the move family that sets a register from memory or from another register. -/
lemma follows_load {target source : Operand}
    (hp : m.planAs o i = i.need o target >>= fun t =>
      if i.address.isRegister then i.need o source >>= fun s => pure (.setRegister t (m.get s))
      else m.dataWord i >>= fun w => pure (.setRegister t w))
    (hn : o.needs i.address.isRegister =
      if i.address.isRegister then [target, source] else [target])
    (ha : o.access i.address.isRegister = if i.address.isRegister then .nothing else .read)
    (hd : o.destination? i.address.isRegister = some target) (hj : o.isJump = false)
    (hz : o.divisor? (m.content i .reg2) (m.word? i) = none)
    (hv : ∀ w, o.value i.address.isRegister (m.content i .reg1) (m.content i .reg2) w =
      if i.address.isRegister then m.content i source else w) : m.Follows o i := by
  rw [Follows, hp, hn]
  by_cases hr : i.address.isRegister = true
  · simp only [hr, if_true] at ha hv ⊢
    have hresult : m.result o i = m.get (i.named source) := by
      rw [result, hr, hv, content, Int32.ofInt_toInt]
    rw [outcome_of_nothing (by rw [hr, ha]), finished_of_value hd hj hz, hresult]
    exact Instruction.need_two ..
  · simp only [hr, Bool.false_eq_true, if_false] at ha hv ⊢
    have hread : (m.dataWord i >>= fun w => pure (.setRegister (i.named target) w)) =
        m.outcome o i := by
      refine outcome_of_read (by simpa [hr] using ha) fun w hw => ?_
      have hresult : m.result o i = w := by
        rw [result, Bool.eq_false_iff.mpr hr, hv, hw, Option.getD_some, Int32.ofInt_toInt]
      rw [finished_of_value hd hj hz, hresult]
      rfl
    rw [← hread]
    exact Instruction.need_one ..

/-- An operation of the move family that sets a cell or another register. -/
lemma follows_store
    (hp : m.planAs o i = i.need o .reg1 >>= fun s =>
      if i.address.isRegister then i.need o .reg2 >>= fun t => pure (.setRegister t (m.get s))
      else m.memory.check (m.dataIndex i) >>= fun _ => pure (.store (m.dataIndex i) (m.get s)))
    (hn : o.needs i.address.isRegister =
      if i.address.isRegister then [.reg1, .reg2] else [.reg1])
    (ha : o.access i.address.isRegister = if i.address.isRegister then .nothing else .write)
    (hd : o.destination? i.address.isRegister = if i.address.isRegister then some .reg2 else none)
    (hj : o.isJump = false) (hz : o.divisor? (m.content i .reg2) (m.word? i) = none)
    (hv : ∀ w, o.value i.address.isRegister (m.content i .reg1) (m.content i .reg2) w =
      m.content i .reg1) : m.Follows o i := by
  have hresult : m.result o i = m.get (i.named .reg1) := by
    rw [result, hv, content, Int32.ofInt_toInt]
  rw [Follows, hp, hn]
  by_cases hr : i.address.isRegister = true
  · rw [if_pos hr] at ha hd
    rw [outcome_of_nothing ha, finished_of_value hd hj hz, hresult]
    simp only [hr, if_true]
    exact Instruction.need_two ..
  · rw [if_neg hr] at ha hd
    have htakes : ¬ m.Takes o i := fun h => by simp [isJump_of_takes h] at hj
    have hfinished : m.finished o i = .ok (.store (m.dataIndex i) (m.get (i.named .reg1))) := by
      simp only [finished, hz, reduceCtorEq, htakes, tabled, hd, Writes, ha, hresult, if_true,
        if_false]
    have hwrite : (m.memory.check (m.dataIndex i) >>= fun _ =>
        pure (.store (m.dataIndex i) (m.get (i.named .reg1)))) = m.outcome o i := by
      rw [outcome, consulted, ha, hfinished]
      rfl
    simp only [hr, Bool.false_eq_true, if_false]
    rw [← hwrite]
    exact Instruction.need_one ..

lemma follows_branchIf {p : Int32 → Bool} (hp : m.planAs o i = m.branchIf o i p)
    (hn : o.needs i.address.isRegister = [.reg1]) (hj : o.isJump = true)
    (ht : p (m.get (i.named .reg1)) = true ↔ m.Takes o i) : m.Follows o i := by
  rw [Follows, hp, hn, ← outcome_of_jump hj ht]
  exact Instruction.need_one ..

lemma follows_branchIfBoth {p : Int32 → Int32 → Bool} (hp : m.planAs o i = m.branchIfBoth o i p)
    (hn : o.needs i.address.isRegister = [.reg1, .reg2]) (hj : o.isJump = true)
    (ht : p (m.get (i.named .reg1)) (m.get (i.named .reg2)) = true ↔ m.Takes o i) :
    m.Follows o i := by
  rw [Follows, hp, hn, ← outcome_of_jump hj ht]
  exact Instruction.need_two ..

lemma follows_div : m.Follows .div i := by
  have hdivide : (divide (m.get (i.named .reg1)) (m.get (i.named .reg2))).map
      (.setRegister (i.named .reg3)) = m.outcome .div i := by
    rw [outcome_of_nothing rfl, divide_map, finished]
    simp [Operation.divisor?, content, Takes, Operation.jumpsOn, tabled, Operation.destination?,
      result, Operation.value]
  rw [Follows, ← hdivide]
  exact Instruction.need_three ..

lemma follows_divi : m.Follows .divi i := by
  have hdivide : (m.dataWord i >>= fun w => (divide (m.get (i.named .reg2)) w).map
      (.setRegister (i.named .reg2))) = m.outcome .divi i := by
    refine outcome_of_read rfl fun w hw => ?_
    rw [divide_map, finished]
    simp [Operation.divisor?, content, hw, Takes, Operation.jumpsOn, tabled,
      Operation.destination?, result, Operation.value]
  rw [Follows, ← hdivide]
  exact Instruction.need_one ..

lemma follows_mov : m.Follows .mov i := by
  have hset : m.outcome .mov i = .ok (.setRegister (i.named .reg3) (m.get (i.named .reg1))) := by
    rw [outcome_of_nothing rfl, finished_of_value rfl rfl rfl]
    simp [result, Operation.value, content]
  rw [Follows, hset]
  exact Instruction.need_two ..

lemma follows_or : m.Follows .or i := by
  have hflag : flag (m.get (i.named .reg1) == 1 || m.get (i.named .reg2) == 1) = m.result .or i :=
    flag_eq (by simp [content, toInt_eq_one_iff])
  rw [Follows, outcome_of_nothing rfl, finished_of_value rfl rfl rfl,
    ← hflag]
  exact Instruction.need_three ..

lemma follows_slti : m.Follows .slti i := by
  have hread : (m.dataWord i >>= fun w => pure (.setRegister (i.named .reg2)
      (flag (m.get (i.named .reg1) < w)))) = m.outcome .slti i := by
    refine outcome_of_read rfl fun w hw => ?_
    have hflag : flag (m.get (i.named .reg1) < w) = m.result .slti i := by
      simp only [result, Operation.value, hw, Option.getD_some]
      exact flag_eq (by simp [content, Int32.lt_iff_toInt_lt])
    rw [finished_of_value rfl rfl rfl, hflag]
    rfl
  rw [Follows, ← hread]
  exact Instruction.need_two ..

lemma follows_of_idle (hn : o.needs i.address.isRegister = [])
    (h : m.planAs o i = m.outcome o i) : m.Follows o i := by
  rw [Follows, hn, h]
  rfl

lemma follows_nop : m.Follows .nop i := by
  have hskip : m.outcome .nop i = .ok .skip := by
    rw [outcome_of_nothing rfl]
    simp [finished, Operation.divisor?, Takes, Operation.jumpsOn, tabled, Operation.destination?,
      Writes, Operation.access]
  refine follows_of_idle rfl ?_
  rw [hskip, planAs]

lemma follows_hlt : m.Follows .hlt i := by
  have htabled : m.outcome .hlt i =
      .ok (if m.config.halt = .terminate then .halt else .skip) := by
    rw [outcome_of_nothing rfl]
    simp [finished, Operation.divisor?, Takes, Operation.jumpsOn, tabled, Operation.destination?,
      Writes, Operation.access]
  refine follows_of_idle rfl ?_
  rw [htabled, planAs]
  rcases m.config.halt with _ | _ <;> rfl

lemma follows_jmp : m.Follows .jmp i :=
  follows_of_idle rfl (outcome_of_jump rfl (by simp [Takes, Operation.jumpsOn]))

/-- **Every plan follows its row of the table.** -/
theorem follows (m : Machine) (o : Operation) (i : Instruction) : m.Follows o i := by
  -- One case for each row; the word functions are named, for unification would open the words.
  cases o
  case rd | lw => exact follows_load rfl rfl rfl rfl rfl rfl fun _ => rfl
  case wr | st => exact follows_store rfl rfl rfl rfl rfl rfl fun _ => rfl
  case mov => exact follows_mov
  case add =>
    exact follows_combine (f := fun a b => a + b) rfl rfl rfl rfl rfl rfl
      (by simp [result, Operation.value, content])
  case sub =>
    exact follows_combine (f := fun a b => a - b) rfl rfl rfl rfl rfl rfl
      (by simp [result, Operation.value, content])
  case mul =>
    exact follows_combine (f := fun a b => a * b) rfl rfl rfl rfl rfl rfl
      (by simp [result, Operation.value, content])
  case div => exact follows_div
  case and =>
    exact follows_combine (f := fun a b => flag (a == b)) rfl rfl rfl rfl rfl rfl
      (flag_eq (by simp [content, Int32.toInt_inj]))
  case or => exact follows_or
  case slt =>
    exact follows_combine (f := fun a b => flag (a < b)) rfl rfl rfl rfl rfl rfl
      (flag_eq (by simp [content, Int32.lt_iff_toInt_lt]))
  case movi | ldi =>
    exact follows_adjust (f := fun _ w => w) rfl rfl rfl rfl rfl rfl
      fun w hw => by simp [result, Operation.value, hw]
  case addi =>
    exact follows_adjust (f := fun a w => a + w) rfl rfl rfl rfl rfl rfl
      fun w hw => by simp [result, Operation.value, content, hw]
  case muli =>
    exact follows_adjust (f := fun a w => a * w) rfl rfl rfl rfl rfl rfl
      fun w hw => by simp [result, Operation.value, content, hw]
  case divi => exact follows_divi
  case slti => exact follows_slti
  case hlt => exact follows_hlt
  case nop => exact follows_nop
  case jmp => exact follows_jmp
  case beq =>
    exact follows_branchIfBoth (p := fun a b => a == b) rfl rfl rfl
      (by simp [Takes, Operation.jumpsOn, content, Int32.toInt_inj])
  case bne =>
    exact follows_branchIfBoth (p := fun a b => a != b) rfl rfl rfl
      (by simp [Takes, Operation.jumpsOn, content, Int32.toInt_inj])
  case bez =>
    exact follows_branchIf (p := fun a => a == 0) rfl rfl rfl
      (by simp [Takes, Operation.jumpsOn, content, toInt_eq_zero_iff])
  case bnz =>
    exact follows_branchIf (p := fun a => a != 0) rfl rfl rfl
      (by simp [Takes, Operation.jumpsOn, content, toInt_eq_zero_iff])
  case bgz =>
    exact follows_branchIf (p := fun a => 0 < a) rfl rfl rfl
      (by
        rw [Takes, Operation.jumpsOn, decide_eq_true_iff, decide_eq_true_iff]
        exact Int32.lt_iff_toInt_lt)
  case blz =>
    exact follows_branchIf (p := fun a => a < 0) rfl rfl rfl
      (by
        rw [Takes, Operation.jumpsOn, decide_eq_true_iff, decide_eq_true_iff]
        exact Int32.lt_iff_toInt_lt)

/-! ### What stops a plan -/

lemma plan_of_missing {operand : Operand} (ho : i.operation? = some o)
    (hx : i.missing? o = some operand) :
    m.plan i = .error (.missingOperand o operand i.layout) := by
  unfold Instruction.missing? at hx
  rw [plan, ho]
  refine (follows m o i).trans ?_
  rw [i.required_eq, hx]
  rfl

lemma plan_of_present (ho : i.operation? = some o) (hx : i.missing? o = none) :
    m.plan i = m.outcome o i := by
  unfold Instruction.missing? at hx
  rw [plan, ho]
  refine (follows m o i).trans ?_
  rw [i.required_eq, hx]
  rfl

/-- The layout that an operation is meant for has a field for every register. -/
lemma missing?_of_layout (h : o.layout = i.layout) : i.missing? o = none := by
  refine List.find?_eq_none.mpr fun operand hoperand => ?_
  have hmem : operand ∈ o.registers := by
    generalize i.address.isRegister = alternate at hoperand
    cases o <;> cases alternate <;> revert operand <;> decide
  have hsome := register?_of_layout h hmem
  simpa using hsome

lemma dataCell?_eq_none_iff : m.dataCell? i = none ↔ m.memory.size ≤ m.dataIndex i :=
  Array.getElem?_eq_none_iff

lemma word?_eq_some_iff {v : ℤ} :
    m.word? i = some v ↔ ∃ w, m.dataWord i = .ok w ∧ w.toInt = v := by
  simp only [word?, Option.map_eq_some_iff, dataWord_eq_ok_iff]

lemma locate_eq_error_iff {memory : Memory} {v : ℤ} {f : Fault} :
    memory.locate v = .error f ↔ (v < 0 ∨ memory.size ≤ v) ∧ f = .outside v memory.size := by
  unfold Memory.locate
  split
  · simp only [reduceCtorEq, false_iff]
    omega
  · simp only [Except.error.injEq]
    constructor
    · rintro rfl
      exact ⟨by omega, rfl⟩
    · exact fun h => h.2.symm

lemma jumpTarget_eq_ok_iff {t : ℕ} :
    m.jumpTarget i = .ok t ↔ m.target? i = some (t : ℤ) ∧ t < m.memory.size := by
  unfold jumpTarget target?
  rcases m.config.jumps with _ | _
  · simp only [bind_eq_ok, word?_eq_some_iff, locate_eq_ok_iff]
    constructor
    · rintro ⟨w, hw, ht, hlt⟩
      exact ⟨⟨w, hw, ht⟩, hlt⟩
    · rintro ⟨⟨w, hw, ht⟩, hlt⟩
      exact ⟨w, hw, ht, hlt⟩
  · simp only [locate_eq_ok_iff, Option.some.injEq]

lemma jumpTarget_eq_error_iff {f : Fault} :
    m.jumpTarget i = .error f ↔
      m.config.jumps = .indirect ∧ m.dataWord i = .error f ∨
        ∃ t, m.target? i = some t ∧ (t < 0 ∨ m.memory.size ≤ t) ∧
          f = .outside t m.memory.size := by
  unfold jumpTarget target?
  rcases m.config.jumps with _ | _
  · simp only [bind_eq_error, word?_eq_some_iff, locate_eq_error_iff, true_and]
    constructor
    · rintro (h | ⟨w, hw, ht, hf⟩)
      · exact .inl h
      · exact .inr ⟨w.toInt, ⟨w, hw, rfl⟩, ht, hf⟩
    · rintro (h | ⟨t, ⟨w, hw, rfl⟩, ht, hf⟩)
      · exact .inl h
      · exact .inr ⟨w, hw, ht, hf⟩
  · simp [locate_eq_error_iff]

/-- A fault of the data word is one of the row, for whatever reads the data cell. -/
lemma faulty_of_dataWord {f : Fault} (hreads : m.Reads o i) (h : m.dataWord i = .error f) :
    m.Faulty o i f := by
  rcases dataWord_eq_error_iff.mp h with ⟨hcell, rfl⟩ | ⟨cell, hcell, hword, rfl⟩
  · exact .cell (.inl hreads) (dataCell?_eq_none_iff.mp hcell)
  · exact .word hreads hcell hword

lemma faulty_of_outcome {f : Fault} (h : m.outcome o i = .error f) : m.Faulty o i f := by
  rcases bind_eq_error.mp h with hconsulted | ⟨-, -, hfinished⟩
  · unfold consulted at hconsulted
    rcases ha : o.access i.address.isRegister with _ | _ | _ <;> simp only [ha] at hconsulted
    · cases hconsulted
    · have hword : m.dataWord i = .error f := by
        rcases hw : m.dataWord i with g | w <;> simp_all [Except.map]
      exact faulty_of_dataWord (.inl ha) hword
    · unfold Memory.check at hconsulted
      split at hconsulted
      · cases hconsulted
      · obtain rfl := Except.error.inj hconsulted
        exact .cell (.inr ha) (by omega)
  · unfold finished at hfinished
    split_ifs at hfinished with hzero htakes
    · obtain rfl := Except.error.inj hfinished
      exact .zero hzero
    · have htarget : m.jumpTarget i = .error f := by
        rcases ht : m.jumpTarget i with g | t <;> simp_all [Except.map]
      rcases jumpTarget_eq_error_iff.mp htarget with ⟨hmode, hword⟩ | ⟨t, haims, hout, rfl⟩
      · exact faulty_of_dataWord (.inr ⟨htakes, hmode⟩) hword
      · exact .target htakes haims hout

lemma outcome_of_takes (h : m.Takes o i) : m.outcome o i = (m.jumpTarget i).map .jump :=
  (outcome_of_jump (isJump_of_takes h) (iff_of_true rfl h)).symm

lemma outcome_of_dataWord {f : Fault} (hreads : m.Reads o i) (h : m.dataWord i = .error f) :
    m.outcome o i = .error f := by
  rcases hreads with ha | ⟨htakes, hmode⟩
  · rw [outcome, consulted, ha]
    simp only [h]
    rfl
  · rw [outcome_of_takes htakes, jumpTarget_eq_error_iff.mpr (.inl ⟨hmode, h⟩)]
    rfl

/-- A divisor is at hand only where the data cell is there, if it is needed. -/
lemma consulted_of_divisor {d : ℤ}
    (h : o.divisor? (m.content i .reg2) (m.word? i) = some d) : m.consulted o i = .ok () := by
  unfold Operation.divisor? at h
  split at h
  · rfl
  · obtain ⟨w, hw, -⟩ := word?_eq_some_iff.mp h
    rw [consulted, Operation.access, hw]
    rfl
  · cases h

lemma outcome_of_faulty {f : Fault} (h : m.Faulty o i f) : m.outcome o i = .error f := by
  cases h with
  | cell uses outside =>
    have hword : m.dataWord i = .error (m.memory.fault (m.dataIndex i)) :=
      dataWord_eq_error_iff.mpr (.inl ⟨dataCell?_eq_none_iff.mpr outside, rfl⟩)
    rcases uses with hreads | hwrites
    · exact outcome_of_dataWord hreads hword
    · rw [outcome, consulted, hwrites]
      simp only [Memory.check, if_neg (Nat.not_lt.mpr outside)]
      rfl
  | word reads here garbled =>
    exact outcome_of_dataWord reads (dataWord_eq_error_iff.mpr (.inr ⟨_, here, garbled, rfl⟩))
  | target takes aims outside =>
    rw [outcome_of_takes takes, jumpTarget_eq_error_iff.mpr (.inr ⟨_, aims, outside, rfl⟩)]
    rfl
  | zero divides =>
    rw [outcome, consulted_of_divisor divides, finished, if_pos divides]
    rfl

lemma tabled_of_takes (h : m.Takes o i) {t : ℕ} (ht : m.target? i = some (t : ℤ)) :
    m.tabled o i = .jump t := by
  have hj := isJump_of_takes h
  simp [tabled, Operation.destination?_of_isJump hj, Writes, Operation.access_of_isJump hj, h, ht]

lemma tabled_of_outcome {e : Effect} (h : m.outcome o i = .ok e) : e = m.tabled o i := by
  obtain ⟨-, -, hfinished⟩ := bind_eq_ok.mp h
  unfold finished at hfinished
  split_ifs at hfinished with hzero htakes
  · rcases ht : m.jumpTarget i with g | t
    · simp [ht, Except.map] at hfinished
    · rw [tabled_of_takes htakes (jumpTarget_eq_ok_iff.mp ht).1]
      simpa [ht, Except.map, eq_comm] using hfinished
  · exact (Except.ok.inj hfinished).symm

/-- Without a jump and without a data cell, nothing of the memory matters. -/
lemma finished_withMemory (ha : o.access i.address.isRegister = .nothing) (ht : ¬ m.Takes o i)
    (memory : Memory) : (m.withMemory memory).finished o i = m.finished o i := by
  have htakes : ¬ (m.withMemory memory).Takes o i := ht
  have hzero : o.divisor? ((m.withMemory memory).content i .reg2) ((m.withMemory memory).word? i) =
      o.divisor? (m.content i .reg2) (m.word? i) := by
    cases o <;> first | rfl | simp [Operation.access] at ha
  have htabled : (m.withMemory memory).tabled o i = m.tabled o i := by
    have hresult : (m.withMemory memory).result o i = m.result o i := by
      unfold result
      cases o <;> first | rfl | simp [Operation.access] at ha
      all_goals simp only [Operation.value, ha, if_true]; rfl
    simp only [tabled, hresult, htakes, ht]
    rfl
  rw [finished, finished, hzero, if_neg htakes, if_neg ht, htabled]

lemma planAs_withMemory (ha : o.access i.address.isRegister = .nothing) (ht : ¬ m.Takes o i)
    (memory : Memory) : (m.withMemory memory).planAs o i = m.planAs o i := by
  refine (follows _ o i).trans (Eq.trans ?_ (follows m o i).symm)
  rw [outcome_of_nothing ha, outcome_of_nothing ha, finished_withMemory ha ht]

/-- **The instruction table.** A plan is what the table says: one that lacks a register is refused
for it before anything else, which no instruction is in the layout that its operation is meant for;
any other is refused for its data cell, for its target or for a divisor of zero, and in no other case;
and what neither has a data cell nor jumps is the same over every memory. -/
theorem plan_follows_table (m : Machine) (i : Instruction) :
    (∀ r, m.plan i = r ↔ m.Answers i r) ∧
      ∀ o, i.operation? = some o →
        (o.layout = i.layout → i.missing? o = none) ∧
        (o.access i.address.isRegister = .nothing → ¬ m.Takes o i →
          ∀ memory, (m.withMemory memory).plan i = m.plan i) := by
  -- The table has an answer for every plan; that it has no other is checked answer by answer.
  have hanswers : m.Answers i (m.plan i) := by
    rcases ho : i.operation? with _ | o
    · rw [plan, ho]
      exact .undefined ho
    · rcases hx : i.missing? o with _ | operand
      · rw [plan_of_present ho hx]
        rcases h : m.outcome o i with f | e
        · exact .faulty ho hx (faulty_of_outcome h)
        · obtain rfl := tabled_of_outcome h
          refine .effect ho hx fun f hf => ?_
          rw [outcome_of_faulty hf] at h
          cases h
      · rw [plan_of_missing ho hx]
        exact .missing ho hx
  refine ⟨fun r => ⟨?_, fun h => ?_⟩, fun o ho => ⟨missing?_of_layout, fun ha ht memory => ?_⟩⟩
  · rintro rfl
    exact hanswers
  · cases h with
    | undefined ho => rw [plan, ho]
    | missing ho hx => exact plan_of_missing ho hx
    | faulty ho hx hf => rw [plan_of_present ho hx, outcome_of_faulty hf]
    | @effect o ho hx hf =>
      rw [plan_of_present ho hx]
      rcases h : m.outcome o i with f | e
      · exact absurd (faulty_of_outcome h) (hf f)
      · rw [tabled_of_outcome h]
  · rw [plan, plan, ho]
    exact planAs_withMemory ha ht memory

/-- An addition in the layout of a jump lacks its target first of all. -/
example : (Instruction.jump Operation.add.code ⟨0⟩).missing? .add = some .reg3 := by decide

/-- A load of the data cell, and of a cell that is not there. -/
theorem plan_follows_table_load :
    let m : Machine := ⟨.init {}, ⟨0, 1, 1, .ready⟩, .ofLines ["0x4F010001", "data", "-7"]⟩
    m.Answers (.decode 0x4F010001) (.ok (.setRegister 1 (-7))) ∧
      m.Answers (.decode 0x4F010002) (.error (.outside 3 3)) ∧
      (Instruction.decode 0x4F010001).missing? .ldi = none := by
  intro m
  have hload : m.plan (.decode 0x4F010001) = .ok (.setRegister 1 (-7)) := by decide +kernel
  have hbeyond : m.plan (.decode 0x4F010002) = .error (.outside 3 3) := by decide +kernel
  obtain ⟨htable, hlayout⟩ := plan_follows_table m (.decode 0x4F010001)
  refine ⟨(htable _).mp hload, ((plan_follows_table m _).1 _).mp hbeyond, ?_⟩
  exact (hlayout .ldi (by decide +kernel)).1 (by decide +kernel)

end Machine

end CellMachine
