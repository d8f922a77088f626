import CellMachine.Proofs.Configurations
import CellMachine.Proofs.Encoding
import CellMachine.Proofs.Failures

/-!
Where a fetched word goes does not matter to a program that never reads register 2. Every fetch may
overwrite that register, and the program may write to it; as no operation of the code reads it, two
machines that differ in the slot of the fetched word plan the same effects, and keep everything but
that register the same.
-/

namespace CellMachine

namespace Instruction

variable {i : Instruction} {register : UInt8}

def registersRead (i : Instruction) : List UInt8 :=
  match i.operation? with
  | some o => (o.reads i.address.isRegister).filterMap i.register?
  | none => []

/-- The register fields of a word have four bits. -/
lemma Fits.register_lt {operand : Operand} (h : i.Fits)
    (hr : i.register? operand = some register) : register.toNat < 16 := by
  have hfields := h.fields
  cases i <;> cases operand <;>
    simp [register?, reg1?, reg2?, reg3?, layout, Layout.fields, Instruction.fields] at hr hfields
  all_goals grind

lemma mem_registersRead {o : Operation} {operand : Operand} (ho : i.operation? = some o)
    (hread : operand ∈ o.reads i.address.isRegister) (hr : i.register? operand = some register) :
    register ∈ i.registersRead := by
  simp only [registersRead, ho]
  exact List.mem_filterMap.mpr ⟨operand, hread, hr⟩

end Instruction

namespace Registers

lemma index_ne_shared {register : UInt8} (hlt : register.toNat < 16) (hne : register ≠ 2) :
    index register ≠ shared := by
  intro h
  have hval : register.toNat % 16 = 2 := congrArg Fin.val h
  apply hne
  apply UInt8.toNat_inj.mp
  rw [Nat.mod_eq_of_lt hlt] at hval
  exact hval

def SameButShared (r r' : Registers) : Prop :=
  ∀ k : Fin 16, k ≠ shared → r.general.get k = r'.general.get k

lemma congruence_sameButShared : Congruence SameButShared where
  load {r r'} w h k hk :=
    (general_load_of_ne r w fun e => hk e.2).trans <|
      (h k hk).trans (general_load_of_ne r' w fun e => hk e.2).symm
  set {r r'} register v h k hk := by
    have hkeep : r.general[(k : ℕ)] = r'.general[(k : ℕ)] := h k hk
    have hset : (r.set register v).general[(k : ℕ)] = (r'.set register v).general[(k : ℕ)] := by
      simp only [Registers.set, Vector.getElem_set, hkeep]
    exact hset
  reset _ _ _ := rfl

end Registers

namespace Machine

variable {m m' : Machine} {w : UInt32}

/-- No instruction of the code reads register 2. -/
def LeavesUnread (m : Machine) : Prop :=
  ∀ w ∈ m.codeWords, (2 : UInt8) ∉ (Instruction.decode w).registersRead

instance (m : Machine) : Decidable m.LeavesUnread := List.decidableBAll _ _

lemma ofProgram_leavesUnread : OfProgram LeavesUnread := by
  intro m m' hm h hunread
  rw [LeavesUnread, h.code.codeWords hm]
  exact hunread

/-- Machines that differ only in where a fetched word goes and in what register 2 holds, which their
code does not read. -/
abbrev SlotApart : Machine → Machine → Prop :=
  Paired Registers.SameButShared (fun c c' => c' = { c with slot := c'.slot }) LeavesUnread

lemma SlotApart.sameAt (h : SlotApart m m') (hw : w ∈ m.codeWords) {o : Operation}
    (ho : (Instruction.decode w).operation? = some o) {operand : Operand}
    (hread : operand ∈ o.reads (Instruction.decode w).address.isRegister) :
    SameAt m m' (.decode w) operand := by
  intro register hr
  have hne : register ≠ 2 := by
    rintro rfl
    exact h.program w hw (Instruction.mem_registersRead ho hread hr)
  exact h.registers _ (Registers.index_ne_shared ((Instruction.fits_decode w).register_lt hr) hne)

lemma lockstep_slotApart : Lockstep SlotApart := by
  refine lockstep_paired Registers.congruence_sameButShared ofProgram_leavesUnread
    (fun h => by rw [h]) fun {m m' w} h hw => ?_
  have hjumps : m.config.jumps = m'.config.jumps := by rw [h.config]
  refine h.indistinct (fun o ho operand hread => SlotApart.sameAt h hw ho hread) (fun o _ _ => ?_)
    (by rw [h.config])
  simp only [jumpTarget, hjumps, h.dataWord, h.memory]

end Machine

open Kernel Machine

/-- **Where a fetched word goes does not matter to a program that never reads register 2.** If no
instruction of the code reads that register, although it may write to it, then a program that is
ready goes through the same histories whichever slot its fetched words go to: what is called is
answered and reported in the same way, so the same cycles complete with the same effects and the
same cycle fails with the same fault; memory, process, cycle count and all other registers stay
equal. -/
theorem slots_agree {config : Config} {lines : List String} {slot : InstructionSlot}
    {calls : List Call} {trace : List Event} {s : Kernel}
    (unread : (readyMachine config lines).LeavesUnread)
    (hc : ∀ call ∈ calls, call.drives = true) (h : History (.ready config lines) calls trace s) :
    ∃ s', History (.ready { config with slot } lines) calls trace s' ∧
      s'.memory = s.memory ∧ s'.process = s.process ∧ s'.processor.cycles = s.processor.cycles ∧
      (∀ k : Fin 16, k ≠ Registers.shared →
        s'.processor.registers.general.get k = s.processor.registers.general.get k) ∧
      ∀ limit call, call.drives = true →
        (s'.answer limit call).map (fun o => (o.result, o.trace)) =
          (s.answer limit call).map fun o => (o.result, o.trace) := by
  obtain ⟨s', hh', hmemory, hprocess, hcycles, hregisters, hanswer⟩ :=
    history_paired config { config with slot } lockstep_slotApart (fun _ _ => rfl) rfl unread hc h
  exact ⟨s', hh', hmemory, hprocess, hcycles, fun k hk => (hregisters k hk).symm, hanswer⟩

/-- A program that writes a data word to register 2 and divides by zero a cycle later. The word is
there at the end in one of the machines only. -/
theorem slots_agree_division :
    let lines := ["0x4B010001", "0x04102000", "0x08103000", "data", "7"]
    let shared := ((ready {} lines).answerAll 9 [.run]).map (·.2.processor.registers.general.get 2)
    let apart := ((ready { slot := .dedicated } lines).answerAll 9 [.run]).map
      (·.2.processor.registers.general.get 2)
    shared = some 0x08103000 ∧ apart = some 7 ∧
    ∃ trace s s', History (.ready {} lines) [.run] trace s ∧
      History (.ready { slot := .dedicated } lines) [.run] trace s' ∧
      (cyclesOf trace).map (·.effect) = [.setRegister 1 7, .setRegister 2 7] ∧
      s'.memory = s.memory ∧ s'.process = s.process ∧
      s'.processor.registers.general.get 1 = s.processor.registers.general.get 1 ∧
      (s'.answer 9 .cycle).map (fun o => (o.result, o.trace)) =
        (s.answer 9 .cycle).map fun o => (o.result, o.trace) := by
  intro lines shared apart
  have hrun : ((ready {} lines).answerAll 9 [.run]).map (fun r => (cyclesOf r.1).map (·.effect)) =
      some [.setRegister 1 7, .setRegister 2 7] := by
    decide +kernel
  obtain ⟨⟨trace, s⟩, hr, ht⟩ := Option.map_eq_some_iff.mp hrun
  have hh := history_of_answerAll hr
  have hunread : (readyMachine {} lines).LeavesUnread := by decide +kernel
  obtain ⟨s', hh', hmemory, hprocess, -, hregisters, hanswer⟩ :=
    @slots_agree {} lines .dedicated _ _ _ hunread (by decide) hh
  refine ⟨by decide +kernel, by decide +kernel, trace, s, s', hh, hh', ht, hmemory, hprocess,
    hregisters 1 (by decide), hanswer 9 .cycle rfl⟩

end CellMachine
