import CellMachine.Proofs.Assembling
import CellMachine.Proofs.CodeIntegrity
import CellMachine.Proofs.ProgramFiles

/-!
Assembled programs. The file that the assembler writes for a source boots, and the machine executes
the statements of the source: the word at an address below the boundary is the encoding of the
statement with that number, and it stays so.
-/

namespace CellMachine

open Machine

namespace Assembly

variable {p : Program} {config : Config} {m m' : Machine} {c : Cycle} {f : Fault}

lemma instructionLine_ne (i : Instruction) : instructionLine i ≠ boundaryLine := by
  intro h
  have hslash : '/' ∈ (instructionLine i).toList := by
    rw [h]
    decide
  exact absurd (written_of_instructionLine i _ hslash) (by decide)

lemma takeWhile_lines (p : Program) :
    p.lines.takeWhile (· ≠ boundaryLine) = p.instructions.map instructionLine := by
  have hcode : ∀ l ∈ p.instructions.map instructionLine, decide (l ≠ boundaryLine) = true := by
    simpa using fun i _ => instructionLine_ne i
  rw [Program.lines, List.takeWhile_append_of_pos hcode]
  rcases p.data with _ | vs <;> simp

lemma readyMachine_lines (p : Program) (config : Config) :
    Kernel.readyMachine config p.lines =
      ⟨.init config, ⟨0, p.instructions.length, p.instructions.length, .ready⟩,
        ⟨(p.cells ++ [Cell.endMarker]).toArray⟩⟩ := by
  simp only [Kernel.readyMachine, image_lines]

lemma texts_readyMachine (p : Program) (config : Config) :
    (Kernel.readyMachine config p.lines).memory.texts =
      p.lines.take p.instructions.length ++
        (match p.data with
          | none => []
          | some _ => "data" :: p.lines.drop (p.instructions.length + 1)) ++ ["end"] := by
  rw [readyMachine_lines]
  obtain ⟨is, data⟩ := p
  have hcode : is.map (Cell.text ∘ instructionCell) = is.map instructionLine := rfl
  rcases data with _ | vs
  · simp [Memory.texts, Program.cells, Program.lines, hcode, Cell.endMarker]
  · have hdata : vs.map (Cell.text ∘ Cell.ofWord) = vs.map dataLine := rfl
    have hdrop : (Program.lines ⟨is, some vs⟩).drop (is.length + 1) = vs.map dataLine := by
      simp [Program.lines, List.drop_append]
    have htake : (Program.lines ⟨is, some vs⟩).take is.length = is.map instructionLine := by
      simp [Program.lines]
    simp [Memory.texts, Program.cells, hcode, hdata, hdrop, htake, Cell.endMarker, Cell.dataMarker]

lemma cell_code {k : ℕ} {i : Instruction} (h : p.instructions[k]? = some i) :
    (Kernel.readyMachine config p.lines).memory.cells[k]? = some (instructionCell i) := by
  have hk : k < (p.instructions.map instructionCell).length := by
    simpa using (List.getElem?_eq_some_iff.mp h).1
  rw [readyMachine_lines, List.getElem?_toArray, Program.cells, List.append_assoc,
    List.getElem?_append_left hk, List.getElem?_map, h]
  rfl

lemma cell_data {vs : List Int32} {k : ℕ} {v : Int32} (hp : p.data = some vs)
    (h : vs[k]? = some v) :
    (Kernel.readyMachine config p.lines).memory.cells[p.instructions.length + 1 + k]? =
      some (.ofWord v) := by
  have hk : k < (vs.map Cell.ofWord).length := by
    simpa using (List.getElem?_eq_some_iff.mp h).1
  have hindex : p.instructions.length + 1 + k =
      (p.instructions.map instructionCell).length + (k + 1) := by
    rw [List.length_map]
    omega
  simp only [readyMachine_lines, List.getElem?_toArray, Program.cells, hp, hindex,
    List.append_assoc]
  rw [List.getElem?_append_right (by omega), Nat.add_sub_cancel_left, List.cons_append,
    List.getElem?_cons_succ, List.getElem?_append_left hk, List.getElem?_map, h]
  rfl

lemma readWord_data (config : Config) {vs : List Int32} {k : ℕ} {v : Int32} (hp : p.data = some vs)
    (h : vs[k]? = some v) :
    (Kernel.readyMachine config p.lines).memory.readWord (p.instructions.length + 1 + k) =
      .ok v :=
  Memory.readWord_of_cell (cell_data hp h)

lemma instructionWord?_code {k : ℕ} {i : Instruction} (h : p.instructions[k]? = some i) :
    (Kernel.readyMachine config p.lines).memory.cells[k]?.bind Cell.instructionWord? =
      some i.encode := by
  rw [cell_code h, Option.bind_some]
  exact Cell.instructionWord?_hexadecimalWord i.encode

/-- Cycles execute the instructions of the program. -/
lemma instruction_of_faithful (hp : ∀ i ∈ p.instructions, i.Fits)
    (h : c.Faithful (Kernel.readyMachine config p.lines)) :
    p.instructions[c.address]? = some c.instruction := by
  have hlt : c.address < p.instructions.length := by
    have := h.address
    rw [readyMachine_lines] at this
    exact this
  have hi := List.getElem?_eq_getElem hlt
  have hword := h.word
  rw [instructionWord?_code hi, Option.some.injEq] at hword
  rw [hi, h.instruction, ← hword, (hp _ (List.getElem_mem hlt)).decode_encode]

/-- A turn fails only where an instruction of the program cannot be planned. -/
lemma refused_of_failed (hp : ∀ i ∈ p.instructions, i.Fits)
    (hs : SameCode (Kernel.readyMachine config p.lines) m) (h : m.turn = (.error f, m')) :
    ∃ i ∈ p.instructions, Refused i f := by
  obtain ⟨hh, hstop, -⟩ := turn_eq_error_iff.mp h
  have hlt : m.process.counter < p.instructions.length := by
    have := ControlBlock.isHalted_eq_false_iff.mp hh
    rw [hs.frame.boundary, readyMachine_lines] at this
    exact this
  have hi := List.getElem?_eq_getElem hlt
  -- Below the boundary there is a word to fetch, so only its plan can stop the turn.
  have hfetch : (m.withState .running).fetchedWord =
      .ok (p.instructions[m.process.counter].encode) := by
    rw [fetchedWord_eq_ok_iff]
    show m.memory.cells[m.process.counter]?.bind Cell.instructionWord? = _
    rw [hs.cells _ (by rw [readyMachine_lines]; exact hlt.le), instructionWord?_code hi]
  cases hstop with
  | fetch fetched => simp [hfetch] at fetched
  | plan w fetched planned =>
    rw [hfetch, Except.ok.injEq] at fetched
    have hmem := List.getElem_mem hlt
    rw [← fetched, (hp _ hmem).decode_encode] at planned
    exact ⟨_, hmem, plan_refused planned⟩

/-- Along every history of the machine of a program whose instructions fit, its instructions are
executed, and a call that fails with a fault has met an instruction that cannot be planned. -/
lemma runs_of_history {calls : List Call} {trace : List Event} {s : Kernel}
    (hp : ∀ i ∈ p.instructions, i.Fits) (hc : ∀ call ∈ calls, call.drives = true)
    (h : History (.ofMachine (Kernel.readyMachine config p.lines)) calls trace s) :
    (∀ c ∈ cyclesOf trace, p.instructions[c.address]? = some c.instruction) ∧
      ∀ call o e, call.drives = true → s.Answers call o → o.result = .error e →
        (∃ b, e = .budgetExhausted b) ∨ ∃ f, e = .fault f ∧ ∃ i ∈ p.instructions, Refused i f := by
  have hsealed := Kernel.sealed_readyMachine config p.lines
  obtain ⟨⟨m, rfl, hs⟩, hcs⟩ := Kernel.sameCode_of_history hsealed hc h
  have hstate : (Kernel.readyMachine config p.lines).process.state ≠ .new := by
    simp [readyMachine_lines]
  obtain ⟨m', he, hm⟩ := Kernel.state_of_history hstate hc h
  obtain rfl := Kernel.ofMachine_inj he
  refine ⟨fun c hcm => instruction_of_faithful hp (hcs c hcm), fun call o e hd ha ho => ?_⟩
  rcases Kernel.failure_of_driven hd ha hm ho with hb | ⟨m₁, m₂, cs, f, run, turn, rfl⟩
  · exact .inl hb
  · exact .inr ⟨f, rfl, refused_of_failed hp (hs.trans run.sameCode) turn⟩

lemma fits_of_means {ts : List (List Char)} {is : List Instruction}
    (h : List.Forall₂ Means ts is) : ∀ i ∈ is, i.Fits := by
  induction h with
  | nil => simp
  | cons hm _ ih => simpa using ⟨hm.fits, ih⟩

lemma exists_of_forall₂ {α β : Type} {R : α → β → Prop} {as : List α} {bs : List β}
    (h : List.Forall₂ R as bs) {k : ℕ} {b : β} (hb : bs[k]? = some b) :
    ∃ a, as[k]? = some a ∧ R a b := by
  induction h generalizing k with
  | nil => simp at hb
  | @cons a b' as bs hr _ ih =>
    rcases k with _ | k
    · obtain rfl : b' = b := by simpa using hb
      exact ⟨a, rfl, hr⟩
    · exact ih (by simpa using hb)

/-- What plain statements mean lacks no operand. -/
lemma not_missing_of_plain {ts : List (List Char)} {is : List Instruction} {i : Instruction}
    (h : List.Forall₂ Means ts is) (hp : ∀ t ∈ ts, Plain t) (hi : i ∈ is) (o : Operation)
    (operand : Operand) (layout : Layout) : ¬ Refused i (.missingOperand o operand layout) := by
  rintro ⟨_, _, ho, needed, absent⟩
  obtain ⟨k, hk⟩ := List.mem_iff_getElem?.mp hi
  obtain ⟨t, ht, hmeans⟩ := exists_of_forall₂ h hk
  have hlayout := hmeans.layout (hp t (List.mem_of_getElem? ht)) ho
  exact register?_of_layout hlayout needed absent

end Assembly

open Assembly in
/-- **Assembled programs run as they are written.** The file of the lines that the assembler makes of
a source boots. Memory then holds the instructions, the data words behind a marker, and the end
marker, and every number of the source is read from its cell. Whatever is called from then on, a
completed cycle executes the statement with the number of its address. No call fails because there
is no process or no instruction and, where no statement forces a layout, none fails because an
operand is missing. -/
theorem assembled_program_runs {source : String} {lines : List String}
    (h : image source = .ok lines) (config : Config) (path : String) :
    let ts := texts (Text.lines source.toList)
    let n := (lines.takeWhile (· ≠ boundaryLine)).length
    let boot := Kernel.boot config path (textOfBytes (Report.unlines lines).toUTF8)
    boot.result = .ok () ∧
    boot.kernel.process = some ⟨0, n, n, .ready⟩ ∧
    boot.kernel.memory.texts =
      lines.take n ++
        (match numbers? ts with
          | none => []
          | some _ => "data" :: lines.drop (n + 1)) ++ ["end"] ∧
    (∀ numbers, numbers? ts = some numbers → lines.length = n + 1 + numbers.length ∧
      ∀ k t, numbers[k]? = some t →
        ∃ v, number? t = some v ∧ boot.kernel.memory.readWord (n + 1 + k) = .ok v) ∧
    ∀ calls trace s, (∀ call ∈ calls, call.drives = true) → History boot.kernel calls trace s →
      (∀ c ∈ cyclesOf trace,
        ∃ t, (statements ts)[c.address]? = some t ∧ instruction t = .ok c.instruction) ∧
      ∀ call o, call.drives = true → s.Answers call o →
        o.result ≠ .error .notScheduled ∧
        (∀ path cause, o.result ≠ .error (.unloadable path cause)) ∧
        (∀ index text, o.result ≠ .error (.fault (.notAnInstruction index text))) ∧
        ((∀ t ∈ statements ts, Plain t) → ∀ operation operand layout,
          o.result ≠ .error (.fault (.missingOperand operation operand layout))) := by
  obtain ⟨p, hp, rfl⟩ := map_eq_ok.mp h
  obtain ⟨hcode, hdata⟩ := programFrom_eq_ok_iff.mp hp
  have hfits := fits_of_means hcode
  have hn : (p.lines.takeWhile (· ≠ boundaryLine)).length = p.instructions.length := by
    rw [takeWhile_lines, List.length_map]
  obtain ⟨hresult, hkernel⟩ := Kernel.boot_lines config path (isLine_of_mem_lines p)
  rw [Kernel.ready_eq] at hkernel
  simp only [hn, hkernel]
  refine ⟨hresult, ?_, ?_, ?_, ?_⟩
  · rw [readyMachine_lines]
    rfl
  · change (Kernel.readyMachine config p.lines).memory.texts = _
    rw [texts_readyMachine]
    rcases hnumbers : numbers? (texts (Text.lines source.toList)) with _ | numbers <;>
      rcases hd : p.data with _ | vs <;> simp [hnumbers, hd] at hdata ⊢
  · intro numbers hnumbers
    rw [hnumbers] at hdata
    rcases hd : p.data with _ | vs
    · simp [hd] at hdata
    · rw [hd, Option.rel_some_some] at hdata
      refine ⟨by simp [Program.lines, hd, hdata.length_eq]; omega, fun k t ht => ?_⟩
      obtain ⟨v, hv, hnumber⟩ := exists_of_forall₂ hdata.flip ht
      exact ⟨v, hnumber, readWord_data config hd hv⟩
  · intro calls trace s hc hh
    obtain ⟨hcycles, hfail⟩ := runs_of_history hfits hc hh
    refine ⟨fun c hcm => exists_of_forall₂ hcode (hcycles c hcm), fun call o hd ha => ?_⟩
    refine ⟨fun he => ?_, fun path cause he => ?_, fun index text he => ?_,
      fun hplain operation operand layout he => ?_⟩
    · rcases hfail call o _ hd ha he with ⟨b, h⟩ | ⟨f, h, -⟩ <;> simp at h
    · rcases hfail call o _ hd ha he with ⟨b, h⟩ | ⟨f, h, -⟩ <;> simp at h
    · rcases hfail call o _ hd ha he with ⟨b, h⟩ | ⟨f, h, i, -, hr⟩
      · simp at h
      · obtain rfl := Failure.fault.inj h
        cases hr
    · rcases hfail call o _ hd ha he with ⟨b, h⟩ | ⟨f, h, i, hi, hr⟩
      · simp at h
      · obtain rfl := Failure.fault.inj h
        exact not_missing_of_plain hcode hplain hi operation operand layout hr

open Assembly in
/-- A program that copies a data word, and its run. -/
theorem assembled_program_runs_copy :
    let source := "MOVI(0, 1, 1) % load\nST(1, 0, 2)\nHLT\nDATA\n7\n0\n"
    ∃ lines trace s, image source = .ok lines ∧
      History (Kernel.boot {} "copy" (textOfBytes (Report.unlines lines).toUTF8)).kernel [.run]
        trace s ∧
      (cyclesOf trace).map (·.address) = [0, 1, 2] ∧ s.memory.readWord 5 = .ok 7 ∧
      ∀ c ∈ cyclesOf trace,
        ∃ t, (statements (texts (Text.lines source.toList)))[c.address]? = some t ∧
          instruction t = .ok c.instruction := by
  intro source
  have himage : image source =
      .ok ["0x4B010001", "0x42100002", "0x92000000", "// DATA", "7", "0"] := by decide +kernel
  obtain ⟨-, hboot⟩ := Kernel.boot_lines {} "copy" (show ∀ l ∈ ["0x4B010001", "0x42100002",
    "0x92000000", "// DATA", "7", "0"], Text.IsLine l.toList by decide)
  obtain ⟨⟨trace, s⟩, h, ha, hw⟩ : ∃ r, (Kernel.ready {} ["0x4B010001", "0x42100002", "0x92000000",
      "// DATA", "7", "0"]).answerAll 9 [.run] = some r ∧
      (cyclesOf r.1).map (·.address) = [0, 1, 2] ∧ r.2.memory.readWord 5 = .ok 7 :=
    ⟨_, rfl, by decide +kernel, by decide +kernel⟩
  rw [← hboot] at h
  have hh := Kernel.history_of_answerAll h
  obtain ⟨-, -, -, -, hrun⟩ := assembled_program_runs himage {} "copy"
  exact ⟨_, trace, s, himage, hh, ha, hw, (hrun _ trace s (by decide) hh).1⟩

end CellMachine
