import CellMachine.Proofs.ForwardPrograms

/-!
What halting does makes no difference if only the last instruction halts. The process goes to the
boundary, either by a jump or because the boundary is the next cell. So a run in which halting ends
the process and one in which it does nothing go through the same machines; only the record of that
one cycle tells them apart, and no cycle follows it.
-/

namespace CellMachine

/-! ### Records -/

/-- The effect where halting does nothing. -/
def Effect.unhalted : Effect → Effect
  | .halt => .skip
  | e => e

def Cycle.unhalted (c : Cycle) : Cycle := { c with effect := c.effect.unhalted }

/-- The same cycles, except that the last one may halt on one side and do nothing on the other. -/
def SameButHalt (cs cs' : List Cycle) : Prop :=
  cs = cs' ∨ ∃ (ds : List Cycle) (c : Cycle),
    cs = ds ++ [{ c with effect := .halt }] ∧ cs' = ds ++ [{ c with effect := .skip }]

lemma Effect.unhalted_of_ne {e : Effect} (h : e ≠ .halt) : e.unhalted = e := by
  cases e with
  | halt => exact absurd rfl h
  | _ => rfl

lemma Cycle.unhalted_of_ne {c : Cycle} (h : c.effect ≠ .halt) : c.unhalted = c := by
  rw [Cycle.unhalted, Effect.unhalted_of_ne h]

lemma sameButHalt_map {cs : List Cycle} (h : ∀ c ∈ cs.dropLast, c.effect ≠ .halt) :
    SameButHalt cs (cs.map .unhalted) := by
  rcases List.eq_nil_or_concat' cs with rfl | ⟨ds, c, rfl⟩
  · exact Or.inl rfl
  · rw [List.dropLast_concat] at h
    have hds : ds.map Cycle.unhalted = ds := by
      rw [List.map_congr_left fun d hd => Cycle.unhalted_of_ne (h d hd), List.map_id']
    rw [List.map_append, hds, List.map_singleton]
    by_cases hc : c.effect = .halt
    · refine Or.inr ⟨ds, c, ?_, ?_⟩
      · rw [← hc]
      · rw [Cycle.unhalted, hc, Effect.unhalted]
    · rw [Cycle.unhalted_of_ne hc]
      exact Or.inl rfl

namespace Machine

variable {m m' m'' : Machine} {i : Instruction} {c : Cycle} {cs : List Cycle} {f : Fault}
  {mode : HaltMode}

/-! ### Programs that halt last -/

/-- No instruction of the code halts unless it stands in the last cell before the boundary. -/
def HaltsLast (m : Machine) : Prop :=
  m.Throughout fun k i => i.operation? = some .hlt → k + 1 = m.process.boundary

instance (m : Machine) : Decidable m.HaltsLast := inferInstanceAs (Decidable (Throughout _ _))

lemma SameCode.haltsLast (h : SameCode m m') (hm : m.Sealed) (hl : m.HaltsLast) :
    m'.HaltsLast := by
  unfold HaltsLast
  rw [h.frame.boundary]
  exact h.throughout hm hl

/-! ### One turn -/

def withHalt (m : Machine) (mode : HaltMode) : Machine :=
  { m with processor := { m.processor with config := { m.config with halt := mode } } }

lemma plan_withHalt (h : i.operation? ≠ some .hlt) : (m.withHalt mode).plan i = m.plan i := by
  unfold plan
  rcases ho : i.operation? with _ | o
  · rfl
  · cases o with
    | hlt => exact absurd ho h
    | _ => rfl

lemma plan_unhalted (ht : m.config.halt = .terminate) (i : Instruction) :
    (m.withHalt .legacy).plan i = (m.plan i).map .unhalted := by
  by_cases hhlt : i.operation? = some .hlt
  · have hhalts : m.plan i = .ok .halt := by
      simp only [plan, hhlt, planAs, ht]
    rw [hhalts, plan, hhlt]
    rfl
  · rw [plan_withHalt hhlt]
    rcases hp : m.plan i with f | e
    · rfl
    · have hne : e ≠ .halt := by
        rintro rfl
        exact hhlt (halt_of_plan hp).1
      rw [Except.map, Effect.unhalted_of_ne hne]

/-- In the last cell before the boundary, halting leads where doing nothing does. -/
lemma apply_unhalted {e : Effect} (h : e = .halt → m.process.counter + 1 = m.process.boundary) :
    (m.withHalt .legacy).apply e.unhalted = (m.apply e).withHalt .legacy := by
  cases e with
  | halt =>
    have hnext : m.next = m.withProcess m.process.halt := by
      rw [next, h rfl, ControlBlock.halt]
    exact congrArg (withHalt · .legacy) hnext
  | _ => rfl

lemma Completes.unhalted (h : Completes m c m') (ht : m.config.halt = .terminate)
    (hl : c.effect = .halt → m.process.counter + 1 = m.process.boundary) :
    Completes (m.withHalt .legacy) c.unhalted (m'.withHalt .legacy) := by
  obtain ⟨haddress, hfetched, hdecoded, hplanned, rfl⟩ := h
  refine ⟨haddress, hfetched, hdecoded, ?_, ?_⟩
  · have hplan := plan_unhalted (m := m.load c.word) ht c.instruction
    rw [hplanned] at hplan
    exact hplan
  · exact congrArg tick (apply_unhalted (m := m.load c.word) hl).symm

/-- No fault comes from an instruction that halts. -/
lemma Stops.unhalted (h : Stops m f) (ht : m.config.halt = .terminate) :
    Stops (m.withHalt .legacy) f := by
  cases h with
  | fetch fetched => exact .fetch fetched
  | plan w fetched planned =>
    have hplan := plan_unhalted (m := m.load w) ht (.decode w)
    rw [planned] at hplan
    exact .plan w fetched hplan

lemma settle_withHalt (m : Machine) (mode : HaltMode) :
    (m.withHalt mode).settle = m.settle.withHalt mode := by
  have hprocess : (m.withHalt mode).process = m.process := rfl
  unfold settle
  rw [hprocess]
  split <;> rfl

lemma afterFetch_withHalt (m : Machine) (mode : HaltMode) :
    (m.withHalt mode).afterFetch = m.afterFetch.withHalt mode := by
  have hfetched : (m.withHalt mode).fetchedWord = m.fetchedWord := rfl
  unfold afterFetch
  rw [hfetched]
  split <;> rfl

/-- A turn that halts executed an instruction to halt, and the process has halted. -/
lemma hlt_of_turn (h : m.turn = (.ok (some c), m'')) (he : c.effect = .halt) :
    c.instruction.operation? = some .hlt ∧ m''.process.isHalted = true := by
  obtain ⟨-, m', ⟨-, -, -, hp, -⟩, -⟩ := turn_eq_ok_iff.mp h
  rw [he] at hp
  refine ⟨(halt_of_plan hp).1, ControlBlock.isHalted_eq_true_iff.mpr ?_⟩
  rw [(moves_of_turn h).counter, he, (frame_of_turn h).boundary]
  rfl

lemma turn_unhalted (ht : m.config.halt = .terminate) (hl : m.HaltsLast)
    (h : m.turn = (.ok (some c), m'')) :
    (m.withHalt .legacy).turn = (.ok (some c.unhalted), m''.withHalt .legacy) := by
  have hmoves := moves_of_turn h
  have hlast : c.effect = .halt → m.process.counter + 1 = m.process.boundary := by
    intro he
    have hlt : c.address < m.process.boundary := by rw [hmoves.address]; exact hmoves.active
    have hend := hl _ hlt _ hmoves.instruction (hlt_of_turn h he).1
    rwa [hmoves.address] at hend
  obtain ⟨hh, m', hc, rfl⟩ := turn_eq_ok_iff.mp h
  rw [← settle_withHalt]
  exact turn_eq_ok_iff.mpr ⟨hh, _, hc.unhalted ht hlast, rfl⟩

lemma failed_unhalted (ht : m.config.halt = .terminate) (h : m.turn = (.error f, m'')) :
    (m.withHalt .legacy).turn = (.error f, m''.withHalt .legacy) := by
  obtain ⟨hh, hs, rfl⟩ := turn_eq_error_iff.mp h
  rw [← afterFetch_withHalt]
  exact turn_eq_error_iff.mpr ⟨hh, hs.unhalted ht, rfl⟩

/-! ### All turns -/

/-- No cycle follows one that halts. -/
lemma Turns.halts_last (h : Turns m cs m') : ∀ c ∈ cs.dropLast, c.effect ≠ .halt := by
  induction h with
  | nil => simp
  | @cons m m₁ m' c cs turn rest ih =>
    cases rest with
    | nil => simp
    | cons next _ =>
      rw [List.dropLast_cons_cons]
      refine List.forall_mem_cons.mpr ⟨fun he => ?_, ih⟩
      have hgoes := (turn_eq_ok_iff.mp next).1
      rw [(hlt_of_turn turn he).2] at hgoes
      cases hgoes

/-- Where halting does nothing, code that halts last makes the same turns. -/
theorem Turns.unhalted (h : Turns m cs m') (hm : m.Sealed) (ht : m.config.halt = .terminate)
    (hl : m.HaltsLast) :
    Turns (m.withHalt .legacy) (cs.map .unhalted) (m'.withHalt .legacy) := by
  -- Neither the mode nor the code changes, so the next turn meets the same conditions.
  induction h with
  | nil => exact .nil _
  | @cons m m₁ m' c cs turn _ ih =>
    have hsame := sameCode_of_turn turn
    have ht₁ : m₁.config.halt = .terminate := by rw [hsame.frame.config, ht]
    exact .cons (turn_unhalted ht hl turn)
      (ih (hsame.sealed hm) ht₁ (hsame.haltsLast hm hl))

/-- Where halting does nothing, a stretch of code that halts last ends in the same way. -/
theorem Ends.unhalted {n : ℕ} {v : Verdict} (h : Ends m n v m' cs) (hm : m.Sealed)
    (ht : m.config.halt = .terminate) (hl : m.HaltsLast) :
    Ends (m.withHalt .legacy) n v (m'.withHalt .legacy) (cs.map .unhalted) ∧
      SameButHalt cs (cs.map .unhalted) := by
  cases h with
  | halted run length halts =>
    exact ⟨.halted (run.unhalted hm ht hl) (by rwa [List.length_map]) halts,
      sameButHalt_map run.halts_last⟩
  | failed run length turn =>
    have turn' := failed_unhalted (run.sameCode.frame.config ▸ ht) turn
    exact ⟨.failed (run.unhalted hm ht hl) (by rwa [List.length_map]) turn',
      sameButHalt_map run.halts_last⟩
  | pending run length goes_on =>
    exact ⟨.pending (run.unhalted hm ht hl) (by rwa [List.length_map]) goes_on,
      sameButHalt_map run.halts_last⟩

end Machine

/-- The same result, registers, memory, process and number of cycles; and the same cycles, except
that the last one may halt on one side and do nothing on the other. -/
structure Outcome.AlikeButHalt (o o' : Outcome Summary) : Prop where
  result : o.result = o'.result
  registers : o.kernel.processor.registers = o'.kernel.processor.registers
  memory : o.kernel.memory = o'.kernel.memory
  process : o.kernel.process = o'.kernel.process
  cycles : o.kernel.processor.cycles = o'.kernel.processor.cycles
  records : SameButHalt (cyclesOf o.trace) (cyclesOf o'.trace)

namespace Kernel

open Machine

/-- **Code that halts last runs alike whether halting ends the process or does nothing.** -/
theorem run_alikeButHalt {m : Machine} {s s' : Kernel} (hd : s.dispatched? = some m)
    (hd' : s'.dispatched? = some (m.withHalt .legacy)) (hm : m.Sealed)
    (ht : m.config.halt = .terminate) (hl : m.HaltsLast) (limit : ℕ) :
    Option.Rel Outcome.AlikeButHalt (s.run limit) (s'.run limit) := by
  have hbudget : (m.withHalt .legacy).config.budget = m.config.budget := rfl
  obtain ⟨v, m', cs, hends⟩ := exists_ends (m.config.budget.getD limit) m
  obtain ⟨hends', hsame⟩ := hends.unhalted hm ht hl
  simp only [run, hd, hd', hbudget, advance_of_ends hends, advance_of_ends hends']
  cases v with
  | halted =>
    refine .some ⟨rfl, rfl, rfl, rfl, rfl, ?_⟩
    rw [(cyclesOf_driven (.inr ⟨_, _, rfl⟩)).1, (cyclesOf_driven (.inr ⟨_, _, rfl⟩)).1]
    exact hsame
  | failed f =>
    refine .some ⟨rfl, rfl, rfl, rfl, rfl, ?_⟩
    rw [cyclesOf_map_cycle, cyclesOf_map_cycle]
    exact hsame
  | pending =>
    rcases m.config.budget with _ | b
    · exact .none
    · refine .some ⟨rfl, rfl, rfl, rfl, rfl, ?_⟩
      rw [cyclesOf_map_cycle, cyclesOf_map_cycle]
      exact hsame

end Kernel

open Kernel

/-- **The two ways to halt agree if only the last instruction halts.** If no instruction of the code
halts unless it stands in the last cell before the boundary, then under every budget a run in which
halting ends the process and one in which it does nothing have the same result and leave the same
registers, memory, process and number of cycles. They complete the same cycles, except that the last
one may halt in the first run and do nothing in the second. -/
theorem halt_modes_agree {config : Config} {lines : List String}
    (h : (readyMachine config lines).HaltsLast) (limit : ℕ) :
    Option.Rel Outcome.AlikeButHalt
      ((ready { config with halt := .terminate } lines).run limit)
      ((ready { config with halt := .legacy } lines).run limit) := by
  let terminating : Config := { config with halt := .terminate }
  have hl : (readyMachine terminating lines).HaltsLast := h
  exact run_alikeButHalt (dispatched?_ready terminating lines) (dispatched?_ready _ lines)
    (sealed_readyMachine terminating lines) rfl hl limit

/-- A loop that counts down from two, then halts. -/
theorem halt_modes_agree_countdown :
    let config : Config := { jumps := .direct, budget := some 8 }
    let lines := ["0x4B010002", "0x4C010003", "0x58100001", "0x92000000", "data", "1", "2", "-1"]
    (readyMachine config lines).HaltsLast ∧
    ∃ o o', (ready { config with halt := .terminate } lines).run 0 = some o ∧
      (ready { config with halt := .legacy } lines).run 0 = some o' ∧ o.AlikeButHalt o' ∧
      o.result = .ok ⟨6, 4, .terminated⟩ ∧
      (cyclesOf o.trace).map (fun c => (c.address, c.effect)) =
        [(0, .setRegister 1 2), (1, .setRegister 1 1), (2, .jump 1), (1, .setRegister 1 0),
          (2, .skip), (3, .halt)] ∧
      (cyclesOf o'.trace).map (fun c => (c.address, c.effect)) =
        [(0, .setRegister 1 2), (1, .setRegister 1 1), (2, .jump 1), (1, .setRegister 1 0),
          (2, .skip), (3, .skip)] := by
  intro config lines
  have hl : (readyMachine config lines).HaltsLast := by decide +kernel
  have hagree := halt_modes_agree hl 0
  have hends : ((ready { config with halt := .terminate } lines).run 0).map
      (fun o => (o.result, (cyclesOf o.trace).map fun c => (c.address, c.effect))) =
        some (.ok ⟨6, 4, .terminated⟩,
          [(0, .setRegister 1 2), (1, .setRegister 1 1), (2, .jump 1), (1, .setRegister 1 0),
            (2, .skip), (3, .halt)]) := by
    decide +kernel
  have hwalks : ((ready { config with halt := .legacy } lines).run 0).map
      (fun o => (cyclesOf o.trace).map fun c => (c.address, c.effect)) =
        some [(0, .setRegister 1 2), (1, .setRegister 1 1), (2, .jump 1), (1, .setRegister 1 0),
          (2, .skip), (3, .skip)] := by
    decide +kernel
  obtain ⟨o, ho, hends⟩ := Option.map_eq_some_iff.mp hends
  obtain ⟨o', ho', hwalks⟩ := Option.map_eq_some_iff.mp hwalks
  obtain ⟨hresult, hrecords⟩ := Prod.mk.inj hends
  rw [ho, ho'] at hagree
  cases hagree with
  | some halike => exact ⟨hl, o, o', ho, ho', halike, hresult, hrecords, hwalks⟩

end CellMachine
