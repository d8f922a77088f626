import CellMachine.Proofs.Configurations

/-!
Where a jump takes its target from does not matter if every cell that a jump names holds its own
address. Such a cell stays as it is unless a store names it too, and then both kinds of jump have
one target and pass or fail one test of it; a branch that is not taken looks at neither.
-/

namespace CellMachine

def Instruction.jumps (i : Instruction) : Bool :=
  match i.operation? with
  | some o => o.isJump
  | none => false

namespace Machine

variable {m m' : Machine} {i : Instruction}

/-- Every cell that a jump of the code names holds the address field that names it, and is not
stored to. No such field is zero where a marker, which is no word, stands before the data. -/
def SelfAimed (m : Machine) : Prop :=
  ∀ w ∈ m.codeWords, (Instruction.decode w).jumps = true →
    (m.dataWord (.decode w)).map Int32.toInt = .ok (Instruction.decode w).address.field.toNat ∧
      m.dataIndex (.decode w) ∉ m.stored

instance (m : Machine) : Decidable m.SelfAimed := List.decidableBAll _ _

lemma Confined.dataWord (h : Confined m m') (hk : m.dataIndex i ∉ m.stored) :
    m'.dataWord i = m.dataWord i := by
  have hindex : m'.dataIndex i = m.dataIndex i := by
    simp only [dataIndex, h.code.frame.dataOffset]
  have hcell : m'.memory.cells[m.dataIndex i]? = m.memory.cells[m.dataIndex i]? :=
    (h.cells _).resolve_right fun hs => hk hs.1
  simp only [Machine.dataWord, Memory.readWord, Memory.read, Memory.fault, hindex, hcell,
    h.code.frame.size]

lemma ofProgram_selfAimed : OfProgram SelfAimed := by
  intro m m' hm h haimed w hw hj
  have hwords := h.code.codeWords hm
  rw [hwords] at hw
  obtain ⟨hword, hnot⟩ := haimed w hw hj
  have hindex : m'.dataIndex (.decode w) = m.dataIndex (.decode w) := by
    simp only [dataIndex, h.code.frame.dataOffset]
  rw [h.dataWord hnot, hindex, (named_congr hwords h.code.frame.dataOffset).2]
  exact ⟨hword, hnot⟩

/-- **Both kinds of jump have one target.** -/
lemma jumpTarget_of_aimed
    (h : (m.dataWord i).map Int32.toInt = .ok (i.address.field.toNat : ℤ)) :
    m.jumpTarget i = m.memory.locate i.address.field.toNat := by
  unfold jumpTarget
  split
  · rcases hv : m.dataWord i with f | v
    · simp [hv, Except.map] at h
    · simp only [hv, Except.map, Except.ok.injEq] at h
      simp [bind, Except.bind, h]
  · rfl

/-- Machines that differ only in the kind of their jumps, which aim at their own addresses. -/
abbrev JumpsApart : Machine → Machine → Prop :=
  Paired Eq (fun c c' => c' = { c with jumps := c'.jumps }) SelfAimed

lemma lockstep_jumpsApart : Lockstep JumpsApart := by
  refine lockstep_paired Registers.congruence_eq ofProgram_selfAimed (fun h => by rw [h])
    fun {m m' w} h hw => ?_
  refine h.indistinct (fun o _ operand _ register _ => by rw [get, get, h.registers])
    (fun o ho hj => ?_) (by rw [h.config])
  have hjumps : (Instruction.decode w).jumps = true := by simp [Instruction.jumps, ho, hj]
  obtain ⟨haimed, -⟩ := h.program w hw hjumps
  have haimed' := haimed
  rw [h.dataWord] at haimed'
  rw [jumpTarget_of_aimed haimed, jumpTarget_of_aimed haimed', h.memory]

end Machine

open Kernel Machine

/-- **Direct and indirect jumps agree if every target cell holds its own address.** If each cell
that a jump or branch of the code names holds, when the program is ready, the address field that
names it, and no store of the code names it, then the program goes through the same histories
whichever its jumps are: what is called is answered and reported in the same way, so the same cycles
complete with the same effects and the same cycle fails with the same fault; registers, memory,
process and cycle count stay equal. -/
theorem jump_modes_agree {config : Config} {lines : List String} {jumps : JumpMode}
    {calls : List Call} {trace : List Event} {s : Kernel}
    (aimed : (readyMachine config lines).SelfAimed)
    (hc : ∀ call ∈ calls, call.drives = true) (h : History (.ready config lines) calls trace s) :
    ∃ s', History (.ready { config with jumps } lines) calls trace s' ∧
      s'.memory = s.memory ∧ s'.process = s.process ∧ s'.processor.cycles = s.processor.cycles ∧
      s'.processor.registers = s.processor.registers ∧
      ∀ limit call, call.drives = true →
        (s'.answer limit call).map (fun o => (o.result, o.trace)) =
          (s.answer limit call).map fun o => (o.result, o.trace) := by
  obtain ⟨s', hh', hmemory, hprocess, hcycles, hregisters, hanswer⟩ :=
    history_paired config { config with jumps } lockstep_jumpsApart rfl rfl aimed hc h
  exact ⟨s', hh', hmemory, hprocess, hcycles, hregisters.symm, hanswer⟩

/-- A loop that counts down from two and stores the count, behind a branch to its own address. -/
theorem jump_modes_agree_countdown :
    let lines := ["0x4B010002", "0x4C010003", "0x58100001", "0x42100002", "data", "1", "2", "-1"]
    (readyMachine {} lines).SelfAimed ∧
    ∃ trace s s', History (.ready {} lines) [.run] trace s ∧
      History (.ready { jumps := .direct } lines) [.run] trace s' ∧
      (cyclesOf trace).map (fun c => (c.address, c.effect)) =
        [(0, .setRegister 1 2), (1, .setRegister 1 1), (2, .jump 1), (1, .setRegister 1 0),
          (2, .skip), (3, .store 6 0)] ∧
      s'.memory = s.memory ∧ s'.process = s.process ∧
      s'.processor.registers = s.processor.registers := by
  intro lines
  have hrun : ((ready {} lines).answerAll 9 [.run]).map
      (fun r => (cyclesOf r.1).map fun c => (c.address, c.effect)) =
        some [(0, .setRegister 1 2), (1, .setRegister 1 1), (2, .jump 1), (1, .setRegister 1 0),
          (2, .skip), (3, .store 6 0)] := by
    decide +kernel
  obtain ⟨⟨trace, s⟩, hr, ht⟩ := Option.map_eq_some_iff.mp hrun
  have hh := history_of_answerAll hr
  have haimed : (readyMachine {} lines).SelfAimed := by decide +kernel
  obtain ⟨s', hh', hmemory, hprocess, -, hregisters, -⟩ :=
    @jump_modes_agree {} lines .direct _ _ _ haimed (by decide) hh
  exact ⟨haimed, trace, s, s', hh, hh', ht, hmemory, hprocess, hregisters⟩

end CellMachine
