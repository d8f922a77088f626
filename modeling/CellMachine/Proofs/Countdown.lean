import CellMachine.Proofs.AssembledPrograms
import CellMachine.Proofs.Budgets
import CellMachine.Proofs.Disassembly
import CellMachine.Proofs.Failures

/-!
A program that counts down. Register 1 is loaded with a number, and every pass of a loop adds one to
register 3 and takes one from register 1, until that is zero; the passes are then stored. Whatever
the number is, the program makes as many passes: the loop has an invariant that one pass of three
turns preserves.
-/

namespace CellMachine

open Machine

/-! ### Turns that reach something -/

namespace Machine

variable {m : Machine} {P Q : Machine → Prop} {a b : ℕ}

/-- After `n` turns that complete a cycle the machine is as described. -/
def Reaches (n : ℕ) (P : Machine → Prop) (m : Machine) : Prop :=
  ∃ cs m', Turns m cs m' ∧ cs.length = n ∧ P m'

lemma Reaches.refl (h : P m) : Reaches 0 P m := ⟨[], m, .nil m, rfl, h⟩

lemma Reaches.trans (h : Reaches a P m) (h' : ∀ m', P m' → Reaches b Q m') :
    Reaches (a + b) Q m := by
  obtain ⟨cs, m', run, rfl, hm'⟩ := h
  obtain ⟨ds, m'', run', rfl, hm''⟩ := h' m' hm'
  exact ⟨cs ++ ds, m'', run.append run', List.length_append, hm''⟩

lemma Reaches.mono (h : Reaches a P m) (h' : ∀ m', P m' → Q m') : Reaches a Q m := by
  obtain ⟨cs, m', run, hlength, hm'⟩ := h
  exact ⟨cs, m', run, hlength, h' m' hm'⟩

lemma turn_of_plan {i : Instruction} {e : Effect} (hh : m.process.isHalted = false)
    (hw : m.wordAtCounter? = some i.encode) (hi : i.Fits)
    (hp : ((m.withState .running).load i.encode).plan i = .ok e) :
    m.turn = (.ok (some ⟨m.process.counter, i.encode, i, e⟩),
      ((((m.withState .running).load i.encode).apply e).tick).settle) := by
  refine turn_eq_ok_iff.mpr ⟨hh, _, ⟨rfl, ?_, hi.decode_encode.symm, hp, rfl⟩, rfl⟩
  exact fetchedWord_eq_ok_iff.mpr hw

end Machine

/-! ### The program -/

namespace Countdown

open Assembly Instruction

/-- The lines of the source before the numbers. The branch at the end of the loop has the given
address field. -/
def codeLines (field : String) : List String :=
  ["",
    "  MOVI(0, 1, 1)     % R1 <- 3",
    "  ADDI(0, 3, 5)     % R3 <- R3 + 1",
    "  ADDI(0, 1, 2)     % R1 <- R1 - 1",
    "  BNZ(1, 0, " ++ field ++ ")      % back to 1 while R1 is not zero",
    "  ST(3, 0, 4)       % store the number of passes",
    "  HLT",
    "  NOP",
    "data"]

def constantLines : List String := ["  -1", "  1", "  0", "  1"]

def source (field : String) (n : ℕ) : String :=
  Report.unlines (codeLines field ++ ("  " ++ String.ofList (Numeral.digits n)) :: constantLines)

def instructions (field : UInt32) : List Instruction :=
  [.immediate Operation.movi.code 0 1 ⟨1⟩,
    .immediate Operation.addi.code 0 3 ⟨5⟩,
    .immediate Operation.addi.code 0 1 ⟨2⟩,
    .immediate Operation.bnz.code 1 0 ⟨field⟩,
    .immediate Operation.st.code 3 0 ⟨4⟩,
    .jump Operation.hlt.code ⟨0⟩,
    .jump Operation.nop.code ⟨0⟩]

def words (n : ℕ) : List Int32 := [Int32.ofNat n, -1, 1, 0, 1]

def program (field : UInt32) (n : ℕ) : Program :=
  ⟨instructions field, some (words n)⟩

lemma toInt_ofNat {n : ℕ} (h : n ≤ 2 ^ 31 - 1) : (Int32.ofNat n).toInt = n :=
  Int32.toInt_ofNat_of_lt (by omega)

lemma dataLine_ofNat {n : ℕ} (h : n ≤ 2 ^ 31 - 1) :
    (dataLine (Int32.ofNat n)).toList = Numeral.digits n := by
  rw [dataLine, toInt_ofNat h, String.toList_ofList]
  rfl

lemma texts_indented (v : Int32) :
    texts [' ' :: ' ' :: (dataLine v).toList] = [(dataLine v).toList] := by
  obtain ⟨-, htrim, hne⟩ := bare_dataLine v
  have hcode : Assembly.code (' ' :: ' ' :: (dataLine v).toList) =
      [' ', ' '] ++ Assembly.code (dataLine v).toList ++ [] := by
    simp [Assembly.code, Text.before]
  have hblank : ∀ c ∈ [' ', ' '], Text.isWhite c = true := by simp [Text.isWhite]
  have hline : Text.trim Text.isWhite (Assembly.code (' ' :: ' ' :: (dataLine v).toList)) =
      (dataLine v).toList := by
    rw [hcode, Text.trim_append hblank (by simp), htrim]
  rw [texts_cons, hline, if_neg hne, texts_nil]

lemma lines_source {field : String} {n : ℕ} (hcode : ∀ l ∈ codeLines field, Text.IsLine l.toList)
    (h : n ≤ 2 ^ 31 - 1) :
    Text.lines (source field n).toList = (codeLines field).map String.toList ++
      ([' ' :: ' ' :: (dataLine (Int32.ofNat n)).toList] ++ constantLines.map String.toList) := by
  have hnumber : ("  " ++ String.ofList (Numeral.digits n)).toList =
      ' ' :: ' ' :: (dataLine (Int32.ofNat n)).toList := by
    have hblank : "  ".toList = [' ', ' '] := rfl
    rw [String.toList_append, hblank, String.toList_ofList, dataLine_ofNat h]
    rfl
  obtain ⟨⟨hfeed, hreturn⟩, -, hne⟩ := bare_dataLine (Int32.ofNat n)
  have hline : Text.IsLine ("  " ++ String.ofList (Numeral.digits n)).toList := by
    rw [hnumber]
    refine ⟨by simpa using hfeed, ?_⟩
    rwa [List.getLast?_cons_cons, ← List.singleton_append, List.getLast?_append_of_ne_nil _ hne]
  have hconstants : ∀ l ∈ constantLines, Text.IsLine l.toList := by decide
  rw [source, toList_unlines, Text.lines_unlines, List.map_append, List.map_cons, hnumber]
  · rfl
  · intro chars hchars
    obtain ⟨l, hl, rfl⟩ := List.mem_map.mp hchars
    rcases List.mem_append.mp hl with hl | hl
    · exact hcode l hl
    · rcases List.mem_cons.mp hl with rfl | hl
      · exact hline
      · exact hconstants l hl

def statementTexts (field : String) : List (List Char) :=
  ["MOVI(0, 1, 1)", "ADDI(0, 3, 5)", "ADDI(0, 1, 2)", "BNZ(1, 0, " ++ field ++ ")", "ST(3, 0, 4)",
    "HLT", "NOP"].map String.toList

lemma texts_constants : texts (constantLines.map String.toList) =
    ([-1, 1, 0, 1].map dataLine).map String.toList := by
  decide +kernel

/-- What it takes for the lines before the numbers to be assembled to the instructions. -/
structure Assembles (field : String) (target : UInt32) : Prop where
  lines : ∀ l ∈ codeLines field, Text.IsLine l.toList
  texts : texts ((codeLines field).map String.toList) = statementTexts field ++ ["data".toList]
  plain : ∀ t ∈ statementTexts field, isDataMarker t = false
  means : List.Forall₂ (fun t i => instruction t = .ok i) (statementTexts field)
    (instructions target)

lemma assembles_three : Assembles "3" 3 := by constructor <;> decide +kernel

lemma assembles_one : Assembles "1" 1 := by constructor <;> decide +kernel

/-- **The source is assembled to the program.** -/
theorem image_source {field : String} {target : UInt32} {n : ℕ} (hf : Assembles field target)
    (h : n ≤ 2 ^ 31 - 1) : image (source field n) = .ok (program target n).lines := by
  have hdata : isDataMarker "data".toList = true := by decide
  have htexts : texts (Text.lines (source field n).toList) = statementTexts field ++
      "data".toList :: ((words n).map dataLine).map String.toList := by
    rw [lines_source hf.lines h, texts_append, texts_append, hf.texts, texts_indented,
      texts_constants, List.append_assoc]
    rfl
  obtain ⟨hstatements, hnumbers⟩ := statements_append hf.plain
    ("data".toList :: ((words n).map dataLine).map String.toList)
  rw [statements_cons, if_pos hdata, List.append_nil] at hstatements
  rw [numbers?_cons, if_pos hdata] at hnumbers
  have hprogram : Assembly.program (source field n) = .ok (program target n) := by
    refine programFrom_eq_ok_iff.mpr ⟨?_, ?_⟩
    · rw [htexts, hstatements]
      exact hf.means
    · rw [htexts, hnumbers]
      exact .some (forall₂_number?_dataLine _)
  rw [image, hprogram, Except.map]

/-! ### The machine -/

def memory (target : UInt32) (n : ℕ) : Memory :=
  ⟨((program target n).cells ++ [Cell.endMarker]).toArray⟩

/-- What the program depends on: where the process stands, the memory, and what registers 1 and 3
hold, which is the number that is left and the number of passes. -/
structure View where
  counter : ℕ
  boundary : ℕ
  dataOffset : ℕ
  config : Config
  memory : Memory
  left : Int32
  passes : Int32

def view (m : Machine) : View :=
  ⟨m.process.counter, m.process.boundary, m.process.dataOffset, m.config, m.memory, m.get 1,
    m.get 3⟩

namespace View

def next (v : View) : View := { v with counter := v.counter + 1 }

def apply (v : View) : Effect → View
  | .skip => v.next
  | .setRegister register x =>
    { v with
      left := if Registers.index 1 = Registers.index register then x else v.left
      passes := if Registers.index 3 = Registers.index register then x else v.passes }.next
  | .store index x => { v with memory := ⟨v.memory.cells.setIfInBounds index (.ofWord x)⟩ }.next
  | .jump target => { v with counter := target }
  | .halt => { v with counter := v.boundary }

end View

section View

variable {v : View} {i : Instruction} {e : Effect} {m : Machine}

lemma view_apply (m : Machine) (e : Effect) : view (m.apply e) = (view m).apply e := by
  cases e with
  | skip | store | jump | halt => rfl
  | setRegister register x =>
    have hget : ∀ r, (m.apply (.setRegister register x)).get r =
        if Registers.index r = Registers.index register then x else m.get r := fun r =>
      Registers.get_set ..
    simp only [view, hget]
    rfl

/-- Fetching spares the registers of the program: a fetched word goes to register 2 at most. -/
lemma view_load (m : Machine) (w : UInt32) : view (m.load w) = view m := by
  have hget : ∀ r, Registers.index r ≠ Registers.shared → (m.load w).get r = m.get r :=
    fun r hne => Registers.general_load_of_ne _ w fun hshared => hne hshared.2
  simp only [view, hget 1 (by decide), hget 3 (by decide)]
  rfl

lemma view_settle (m : Machine) : view m.settle = view m := by
  unfold Machine.settle
  split <;> rfl

/-- **One turn**, given the instruction that is fetched and its plan. -/
lemma turn_of_view (h : view m = v) (hh : v.counter < v.boundary)
    (hi : v.memory.cells[v.counter]? = some (instructionCell i)) (hfit : i.Fits)
    (hplan : ∀ m, view m = v → m.plan i = .ok e) : Reaches 1 (fun m' => view m' = v.apply e) m := by
  subst h
  have hactive : m.process.isHalted = false := ControlBlock.isHalted_eq_false_iff.mpr hh
  have hword : m.wordAtCounter? = some i.encode := by
    have hcell : m.memory.cells[m.process.counter]? = some (instructionCell i) := hi
    rw [wordAtCounter?, hcell, Option.bind_some]
    exact Cell.instructionWord?_hexadecimalWord i.encode
  have hload : view ((m.withState .running).load i.encode) = view m := view_load _ _
  refine ⟨_, _, .cons (turn_of_plan hactive hword hfit (hplan _ hload)) (.nil _), rfl, ?_⟩
  exact (view_settle _).trans ((view_apply _ e).trans (congrArg (·.apply e) hload))

lemma dataWord_of_view (h : view m = v) {x : Int32}
    (hx : v.memory.readWord (v.dataOffset + i.address.field.toNat) = .ok x) :
    m.dataWord i = .ok x := by
  subst h
  exact hx

lemma plan_of_opcode {o : Operation} (h : i.opcode = o.code) : m.plan i = m.planAs o i := by
  rw [plan, operation?, h, Operation.ofCode?_code]

end View

section Turns

variable {target : UInt32} {n : ℕ} {config : Config} {k : ℕ} {left passes : Int32} {m : Machine}

/-- The program stands at instruction `k`, and nothing has been stored. -/
def counting (target : UInt32) (n : ℕ) (config : Config) (k : ℕ) (left passes : Int32) : View :=
  ⟨k, 7, 7, config, memory target n, left, passes⟩

lemma size_memory (target : UInt32) (n : ℕ) : (memory target n).size = 14 := rfl

lemma readWord_memory (target : UInt32) {x : Int32} (h : (words n)[k]? = some x) :
    (memory target n).readWord (8 + k) = .ok x := by
  have hread := readWord_data (p := program target n) {} rfl h
  rw [readyMachine_lines] at hread
  exact hread

lemma load_turn (h : view m = counting target n config 0 left passes) :
    Reaches 1 (fun m' => view m' = counting target n config 1 (Int32.ofNat n) passes) m := by
  refine turn_of_view (e := .setRegister 1 (Int32.ofNat n)) h (show 0 < 7 by decide) rfl
    ⟨by decide, by decide⟩ fun m hm => ?_
  have hword := dataWord_of_view (i := .immediate Operation.movi.code 0 1 ⟨1⟩) hm
    (readWord_memory target (k := 0) rfl)
  rw [plan_of_opcode rfl, planAs, adjust, hword]
  rfl

lemma count_turn (h : view m = counting target n config 1 left passes) :
    Reaches 1 (fun m' => view m' = counting target n config 2 left (passes + 1)) m := by
  refine turn_of_view (e := .setRegister 3 (passes + 1)) h (show 1 < 7 by decide) rfl
    ⟨by decide, by decide⟩ fun m hm => ?_
  have hword := dataWord_of_view (i := .immediate Operation.addi.code 0 3 ⟨5⟩) hm
    (readWord_memory target (k := 4) rfl)
  have hpasses : m.get 3 = passes := congrArg View.passes hm
  rw [plan_of_opcode rfl, planAs, adjust, hword, ← hpasses]
  rfl

lemma decrease_turn (h : view m = counting target n config 2 left passes) :
    Reaches 1 (fun m' => view m' = counting target n config 3 (left + -1) passes) m := by
  refine turn_of_view (e := .setRegister 1 (left + -1)) h (show 2 < 7 by decide) rfl
    ⟨by decide, by decide⟩ fun m hm => ?_
  have hword := dataWord_of_view (i := .immediate Operation.addi.code 0 1 ⟨2⟩) hm
    (readWord_memory target (k := 1) rfl)
  have hleft : m.get 1 = left := congrArg View.left hm
  rw [plan_of_opcode rfl, planAs, adjust, hword, ← hleft]
  rfl

/-- The address field of the branch leads back to the second instruction. -/
def Aimed (config : Config) (target : UInt32) : Prop :=
  config.jumps = .indirect ∧ target = 3 ∨ config.jumps = .direct ∧ target = 1

lemma jumpTarget_of_aimed (h : view m = counting target n config k left passes)
    (ht : Aimed config target) :
    m.jumpTarget (.immediate Operation.bnz.code 1 0 ⟨target⟩) = .ok 1 := by
  have hconfig : m.config = config := congrArg View.config h
  have hmemory : m.memory = memory target n := congrArg View.memory h
  have hlocate : m.memory.locate 1 = .ok 1 := by
    simp [Memory.locate, hmemory, size_memory]
  rcases ht with ⟨hj, rfl⟩ | ⟨hj, rfl⟩
  · have hword := dataWord_of_view (i := .immediate Operation.bnz.code 1 0 ⟨3⟩) h
      (readWord_memory 3 (k := 2) rfl)
    rw [jumpTarget, hconfig, hj]
    simp only [hword]
    exact hlocate
  · rw [jumpTarget, hconfig, hj]
    exact hlocate

/-- The branch is taken until nothing is left. -/
lemma branch_turn (h : view m = counting target n config 3 left passes) (ht : Aimed config target) :
    Reaches 1 (fun m' =>
      view m' = counting target n config (if left = 0 then 4 else 1) left passes) m := by
  have hfit : (Instruction.immediate Operation.bnz.code 1 0 ⟨target⟩).Fits := by
    rcases ht with ⟨-, rfl⟩ | ⟨-, rfl⟩ <;> exact ⟨by decide, by decide⟩
  have hplan : ∀ m, view m = counting target n config 3 left passes →
      m.plan (.immediate Operation.bnz.code 1 0 ⟨target⟩) =
        m.branch (.immediate Operation.bnz.code 1 0 ⟨target⟩) (left != 0) := by
    intro m hm
    have hleft : m.get 1 = left := congrArg View.left hm
    rw [plan_of_opcode rfl, planAs, branchIf, ← hleft]
    rfl
  by_cases hleft : left = 0
  · rw [if_pos hleft]
    refine turn_of_view (e := .skip) h (show 3 < 7 by decide) rfl hfit fun m hm => ?_
    rw [hplan m hm, hleft]
    rfl
  · rw [if_neg hleft]
    refine turn_of_view (e := .jump 1) h (show 3 < 7 by decide) rfl hfit fun m hm => ?_
    rw [hplan m hm, branch, if_pos (by simpa using hleft), jumpTarget_of_aimed hm ht]
    rfl

/-- The program stands at instruction `k` behind the store. -/
def done (target : UInt32) (n : ℕ) (config : Config) (k : ℕ) (left passes : Int32) : View :=
  { counting target n config k left passes with
    memory := ⟨(memory target n).cells.setIfInBounds 11 (.ofWord passes)⟩ }

lemma store_turn (h : view m = counting target n config 4 left passes) :
    Reaches 1 (fun m' => view m' = done target n config 5 left passes) m := by
  refine turn_of_view (e := .store 11 passes) h (show 4 < 7 by decide) rfl
    ⟨by decide, by decide⟩ fun m hm => ?_
  have hmemory : m.memory = memory target n := congrArg View.memory hm
  have hoffset : m.process.dataOffset = 7 := congrArg View.dataOffset hm
  have hpasses : m.get 3 = passes := congrArg View.passes hm
  have hindex : m.dataIndex (.immediate Operation.st.code 3 0 ⟨4⟩) = 11 := by
    rw [dataIndex, Address.effective, hoffset]
    rfl
  have hinside : 11 < m.memory.size := by
    rw [hmemory, size_memory]
    omega
  rw [plan_of_opcode rfl, planAs, hindex, ← hpasses]
  simp only [(m.memory.check_eq_ok_iff 11).mpr hinside]
  rfl

lemma halt_turn (h : view m = done target n config 5 left passes) (hc : config.halt = .terminate) :
    Reaches 1 (fun m' => view m' = done target n config 7 left passes) m := by
  refine turn_of_view (e := .halt) h (show 5 < 7 by decide) rfl ⟨by decide, by decide⟩
    fun m hm => ?_
  have hconfig : m.config = config := congrArg View.config hm
  rw [plan_of_opcode rfl, planAs, hconfig, hc]

/-- Where halting does nothing, the instruction behind it does nothing either. -/
lemma halt_turns (h : view m = done target n config 5 left passes) (hc : config.halt = .legacy) :
    Reaches 2 (fun m' => view m' = done target n config 7 left passes) m := by
  have hhlt : Reaches 1 (fun m' => view m' = done target n config 6 left passes) m := by
    refine turn_of_view (e := .skip) h (show 5 < 7 by decide) rfl ⟨by decide, by decide⟩
      fun m hm => ?_
    have hconfig : m.config = config := congrArg View.config hm
    rw [plan_of_opcode rfl, planAs, hconfig, hc]
  refine hhlt.trans fun m' hm' => turn_of_view (e := .skip) hm'
    (show 6 < 7 by decide) rfl ⟨by decide, by decide⟩ fun m hm => ?_
  rw [plan_of_opcode rfl, planAs]

end Turns

/-! ### The loop -/

section Loop

variable {target : UInt32} {n i : ℕ} {config : Config} {m : Machine}

/-- After `i` passes: what is left of `n` stands in register 1, and the machine is back at the
second instruction or, after the last pass, behind the loop. -/
def AfterPasses (target : UInt32) (n : ℕ) (config : Config) (i : ℕ) (m : Machine) : Prop :=
  view m = counting target n config (if i < n then 1 else 4) (Int32.ofNat (n - i)) (Int32.ofNat i)

lemma ofNat_pred (h : i < n) : Int32.ofNat (n - i) + -1 = Int32.ofNat (n - (i + 1)) := by
  have hsplit : n - i = n - (i + 1) + 1 := by omega
  calc Int32.ofNat (n - i) + -1
      = Int32.ofNat (n - (i + 1)) + (1 + -1) := by
        rw [hsplit, Int32.ofNat_add, Int32.add_assoc]
        rfl
    _ = Int32.ofNat (n - (i + 1)) := Int32.add_zero _

lemma ofNat_eq_zero_iff (h : n ≤ 2 ^ 31 - 1) : Int32.ofNat n = 0 ↔ n = 0 := by
  constructor
  · intro hzero
    have hint : ((n : ℕ) : ℤ) = 0 := by rw [← toInt_ofNat h, hzero]; rfl
    exact_mod_cast hint
  · rintro rfl
    rfl

/-- **One pass**, of three turns. -/
lemma pass (hn : n ≤ 2 ^ 31 - 1) (ht : Aimed config target) (hi : i < n)
    (h : AfterPasses target n config i m) : Reaches 3 (AfterPasses target n config (i + 1)) m := by
  rw [AfterPasses, if_pos hi] at h
  have hcount := count_turn h
  have hdecrease := hcount.trans fun m' hm' => decrease_turn hm'
  refine (hdecrease.trans fun m' hm' => branch_turn hm' ht).mono fun m' hm' => ?_
  -- The branch looks at the word in register 1; nothing wraps, so it goes by the passes to come.
  have hzero := ofNat_eq_zero_iff (n := n - (i + 1)) (by omega)
  have hdone : Int32.ofNat i + 1 = Int32.ofNat (i + 1) := (Int32.ofNat_add i 1).symm
  rw [ofNat_pred hi, hdone] at hm'
  have hcounter : (if Int32.ofNat (n - (i + 1)) = 0 then 4 else 1) =
      if i + 1 < n then 1 else 4 := by
    simp only [hzero]
    split <;> split <;> omega
  rwa [hcounter] at hm'

/-- **All passes**, one after another. -/
lemma passes (hn : n ≤ 2 ^ 31 - 1) (ht : Aimed config target) (h : AfterPasses target n config 0 m)
    (hi : i ≤ n) : Reaches (3 * i) (AfterPasses target n config i) m := by
  induction i with
  | zero => exact .refl h
  | succ i ih => exact (ih (by omega)).trans fun m' hm' => pass hn ht (by omega) hm'

def total (config : Config) (n : ℕ) : ℕ :=
  match config.halt with
  | .terminate => 3 * n + 3
  | .legacy => 3 * n + 4

/-- **The whole program.** -/
theorem counts_down (hpos : 1 ≤ n) (hn : n ≤ 2 ^ 31 - 1) (ht : Aimed config target)
    (h : view m = counting target n config 0 0 0) :
    Reaches (total config n)
      (fun m' => view m' = done target n config 7 0 (Int32.ofNat n)) m := by
  have hload : Reaches 1 (AfterPasses target n config 0) m := by
    refine (load_turn h).mono fun m' hm' => ?_
    rw [AfterPasses, if_pos (show 0 < n from hpos)]
    exact hm'
  have hloop := hload.trans fun m' hm' => passes hn ht hm' le_rfl
  have hstore : Reaches (1 + 3 * n + 1)
      (fun m' => view m' = done target n config 5 0 (Int32.ofNat n)) m := by
    refine hloop.trans fun m' hm' => ?_
    rw [AfterPasses, if_neg (lt_irrefl n), Nat.sub_self] at hm'
    exact store_turn hm'
  unfold total
  rcases hc : config.halt with _ | _
  · have hall := hstore.trans fun m' hm' => halt_turn hm' hc
    rwa [show 1 + 3 * n + 1 + 1 = 3 * n + 3 by omega] at hall
  · have hall := hstore.trans fun m' hm' => halt_turns hm' hc
    rwa [show 1 + 3 * n + 1 + 2 = 3 * n + 4 by omega] at hall

end Loop

/-! ### Runs of the program -/

/-- The source is assembled to a file that boots. Its run, if it may take `total` cycles, takes as
many and leaves `n` in memory and in register 3, and nothing in register 1. With a smaller budget it
uses that up. -/
def CountsDown (config : Config) (source : String) (n total : ℕ) : Prop :=
  ∃ lines, image source = .ok lines ∧ ∀ path,
    let boot := Kernel.boot config path (textOfBytes (Report.unlines lines).toUTF8)
    boot.result = .ok () ∧
    (∀ limit, total ≤ config.budget.getD limit → ∃ o, boot.kernel.run limit = some o ∧
      o.result = .ok ⟨total, 7, .terminated⟩ ∧
      ∃ v : Int32, v.toInt = n ∧ o.kernel.memory.readWord 11 = .ok v ∧
        o.kernel.processor.registers.get 1 = 0 ∧ o.kernel.processor.registers.get 3 = v) ∧
    ∀ b < total, config.budget = some b → ∀ limit, ∃ o, boot.kernel.run limit = some o ∧
      o.result = .error (.budgetExhausted b)

variable {config : Config} {target : UInt32} {n : ℕ}

lemma view_readyMachine (config : Config) (target : UInt32) (n : ℕ) :
    view (Kernel.readyMachine config (program target n).lines) =
      counting target n config 0 0 0 := by
  have hzero : ∀ r, (Registers.init config.slot).get r = 0 := fun r => Vector.getElem_replicate _
  rw [readyMachine_lines]
  simp only [view, counting]
  exact congrArg₂ (View.mk 0 7 7 config (memory target n)) (hzero 1) (hzero 3)

lemma readWord_done (target : UInt32) (n : ℕ) (config : Config) (k : ℕ) (left passes : Int32) :
    (done target n config k left passes).memory.readWord 11 = .ok passes := by
  have hcell : (done target n config k left passes).memory.cells[11]? = some (.ofWord passes) :=
    Array.getElem?_setIfInBounds_self_of_lt (show 11 < 14 by decide)
  exact Memory.readWord_of_cell hcell

/-- **The program counts down**, whatever the configuration is, if the branch is aimed for it. -/
theorem countsDown_of_aimed {source : String} (hpos : 1 ≤ n) (hn : n ≤ 2 ^ 31 - 1)
    (ht : Aimed config target) (hs : image source = .ok (program target n).lines) :
    CountsDown config source n (total config n) := by
  have hready := view_readyMachine config target n
  obtain ⟨cs, m', turns, hlength, hend⟩ := counts_down hpos hn ht hready
  have hcounter : m'.process.counter = 7 := congrArg View.counter hend
  have hboundary : m'.process.boundary = 7 := congrArg View.boundary hend
  have hmemory : m'.memory = _ := congrArg View.memory hend
  have halts : m'.process.isHalted = true := by
    rw [ControlBlock.isHalted_eq_true_iff, hcounter, hboundary]
  refine ⟨_, hs, fun path => ?_⟩
  obtain ⟨hresult, hkernel⟩ :=
    Kernel.boot_lines config path (isLine_of_mem_lines (program target n))
  have hd := Kernel.dispatched?_ready config (program target n).lines
  obtain ⟨hrun, hshort⟩ := Kernel.run_of_turns hd turns halts
  have hconfig : (Kernel.readyMachine config (program target n).lines).config = config :=
    congrArg View.config hready
  rw [hlength, hconfig] at hrun hshort
  simp only [hkernel]
  refine ⟨hresult, fun limit hlimit => ⟨_, hrun limit hlimit, ?_, Int32.ofNat n, toInt_ofNat hn, ?_,
    congrArg View.left hend, congrArg View.passes hend⟩, hshort⟩
  · rw [hcounter]
  · show m'.memory.readWord 11 = _
    rw [hmemory, readWord_done]

end Countdown

open Countdown in
/-- **The countdown program counts down from any start.** With indirect jumps the branch of its loop
names the data word that holds the number of the second instruction, and with direct jumps that
number itself. Where halting ends the program, it takes three cycles for every pass and three more;
where halting does nothing, the last instruction takes one more. -/
theorem countdown_from_any_start {n : ℕ} (hpos : 1 ≤ n) (hn : n ≤ 2 ^ 31 - 1)
    (budget : Option ℕ) :
    CountsDown { budget } (source "3" n) n (3 * n + 3) ∧
      CountsDown { Config.legacy with budget } (source "1" n) n (3 * n + 4) :=
  ⟨countsDown_of_aimed hpos hn (.inl ⟨rfl, rfl⟩) (image_source assembles_three hn),
    countsDown_of_aimed hpos hn (.inr ⟨rfl, rfl⟩) (image_source assembles_one hn)⟩

open Countdown in
/-- From three, with a budget that is just enough, and with one cycle less. -/
theorem countdown_from_three :
    ∃ lines, Assembly.image (source "3" 3) = .ok lines ∧
      let boot := fun budget => Kernel.boot { budget } "countdown"
        (textOfBytes (Report.unlines lines).toUTF8)
      (∃ o, (boot (some 12)).kernel.run 0 = some o ∧ o.result = .ok ⟨12, 7, .terminated⟩ ∧
        o.kernel.memory.readWord 11 = .ok 3) ∧
      ∃ o, (boot (some 11)).kernel.run 0 = some o ∧ o.result = .error (.budgetExhausted 11) := by
  obtain ⟨⟨lines, hlines, henough⟩, -⟩ :=
    countdown_from_any_start (n := 3) (by decide) (by decide) (some 12)
  obtain ⟨⟨lines', hlines', hshort⟩, -⟩ :=
    countdown_from_any_start (n := 3) (by decide) (by decide) (some 11)
  obtain rfl : lines = lines' := Except.ok.inj (hlines.symm.trans hlines')
  obtain ⟨-, hrun, -⟩ := henough "countdown"
  obtain ⟨-, -, hcut⟩ := hshort "countdown"
  obtain ⟨o, ho, hresult, v, hv, hword, -⟩ := hrun 0 le_rfl
  obtain rfl : v = 3 := Int32.toInt_inj.mp hv
  exact ⟨lines, hlines, ⟨o, ho, hresult, hword⟩, hcut 11 (by omega) rfl 0⟩

end CellMachine
