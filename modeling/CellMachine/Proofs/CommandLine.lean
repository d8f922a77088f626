import CellMachine.Console.Arguments
import CellMachine.Proofs.Budgets
import CellMachine.Proofs.CodeIntegrity
import CellMachine.Proofs.ProgramFiles
import CellMachine.Proofs.Tables

/-!
The command line. What a run prints follows from the cycles that its program completes: the lines of
loading and scheduling, a line for every cycle, the kernel as it is left, and how the run has ended.
So the exit code tells whether the program was read and came to its boundary. The reader of arguments
and the typesetter are arbitrary; a typesetter that gives up ends the report where the tables would
have stood.
-/

namespace CellMachine

open Report Kernel

lemma textOfBytes_eq_ok_iff {bytes : ByteArray} {text : String} :
    textOfBytes bytes = .ok text ↔ bytes = text.toUTF8 := by
  constructor
  · intro h
    unfold textOfBytes String.fromUTF8? at h
    split at h
    · next s hs =>
      split at hs
      · obtain rfl := Option.some.inj hs
        obtain rfl := Except.ok.inj h
        rfl
      · cases hs
    · cases h
  · rintro rfl
    exact textOfBytes_toUTF8 text

namespace Command

/-! ### What a run reports -/

def linesOf (text : String) : List String := (Text.lines text.toList).map String.ofList

/-- What is printed before the first cycle: that there is a trace, that the file has been loaded, and
that the two schedulers have done their work. -/
def opening (path : String) (config : Config) (text : String) : List String :=
  let m := readyMachine config (linesOf text)
  ["Computation Tracing ENABLED", s!"Loaded {(linesOf text).length} lines from {path}",
    s!"Long-term scheduler: {m.process.boundary} instruction cells, {m.memory.size} cells in all",
    s!"Short-term scheduler: dispatched {m.process.text}"]

def cycleLine (c : Cycle) : String := (Event.cycle c).text

/-- What is printed: the opening, a line for every completed cycle in order, and an ending. -/
def printed (path : String) (config : Config) (text : String) (cs : List Cycle)
    (ending : List String) : String :=
  unlines (opening path config text ++ cs.map cycleLine ++ ending)

/-- What the run of a program reports, given what reading its file has yielded. -/
inductive Reports (typeset : Typesetter) (path : String) (config : Config) :
    Except ReadError String → Report → Prop where
  | unreadable {cause : ReadError} :
    Reports typeset path config (.error cause) ⟨1, unlines ["Computation Tracing ENABLED"],
      line s!"error: {(Failure.unloadable path cause).message}"⟩
  | halted {text shown : String} {s : Kernel} {p : ControlBlock} {cs : List Cycle}
    (cycles : (ready config (linesOf text)).Cycles cs s) (permits : Permits config.budget cs.length)
    (process : s.process = some p) (halts : p.isHalted = true)
    (display : { s with process := some (p.withState .terminated) }.display typeset = .ok shown) :
    Reports typeset path config (.ok text) ⟨0, printed path config text cs
      [s!"Halted after {cs.length} cycles at PC={p.counter}", shown,
        s!"Halted after {cs.length} cycles."], ""⟩
  | failed {text shown : String} {s : Kernel} {cs : List Cycle} {e : Failure}
    (cycles : (ready config (linesOf text)).Cycles cs s)
    (permits : Permits config.budget (cs.length + 1)) (fails : s.cycle.result = .error e)
    (display : s.cycle.kernel.display typeset = .ok shown) :
    Reports typeset path config (.ok text)
      ⟨1, printed path config text cs [shown], line s!"error: {e.message}"⟩
  | exhausted {text shown : String} {s : Kernel} {cs : List Cycle}
    (cycles : (ready config (linesOf text)).Cycles cs s) (used : config.budget = some cs.length)
    (goes_on : s.isHalted = false) (display : s.display typeset = .ok shown) :
    Reports typeset path config (.ok text) ⟨1, printed path config text cs [shown],
      line s!"error: {(Failure.budgetExhausted cs.length).message}"⟩
  | undisplayed {text message : String} {o : Outcome Summary}
    (iterates : (ready config (linesOf text)).Iterates config.budget o)
    (display : o.kernel.display typeset = .error message) :
    Reports typeset path config (.ok text)
      ⟨101, unlines (opening path config text ++ o.trace.map Event.text), line message⟩

variable {typeset : Typesetter} {path : String} {config : Config} {text shown : String}
  {contents : Except ReadError String} {limit : ℕ} {r : Report} {cs : List Cycle}

lemma unlines_append (a b : List String) : unlines (a ++ b) = unlines a ++ unlines b := by
  simp [unlines]

lemma unlines_singleton (s : String) : unlines [s] = line s := by
  simp [unlines]

def reportOf (typeset : Typesetter) (path : String) (config : Config) (text : String)
    (o : Outcome Summary) : Report :=
  let output := unlines (opening path config text) ++ traceText o.trace
  match o.kernel.display typeset with
  | .error message => breakdown output message
  | .ok shown =>
    match o.result with
    | .error e => failure (output ++ line shown) e.message
    | .ok summary => success (output ++ line shown ++ line s!"Halted after {summary.cycles} cycles.")

lemma boot_text (path : String) (config : Config) (text : String) :
    boot config path (.ok text) =
      let m := readyMachine config (linesOf text)
      ⟨.ok (), ready config (linesOf text), [.loaded (linesOf text).length path,
        .scheduled m.process.boundary m.memory.size, .dispatched m.process]⟩ := by
  simp [boot, load, schedule, dispatch, Outcome.andThen, ready, readyMachine, linesOf, init, loadLines,
    Memory.append, Memory.empty, Memory.size, ControlBlock.init, ControlBlock.goto,
    ControlBlock.withState]

lemma runReport_text :
    runReport typeset limit config path (.ok text) =
      ((ready config (linesOf text)).run limit).map (reportOf typeset path config text) := by
  have hstart : line banner ++ traceText (boot config path (.ok text)).trace =
      unlines (opening path config text) := by
    rw [boot_text]
    rfl
  rw [runReport]
  simp only [hstart]
  rw [boot_text]
  rfl

lemma runReport_unreadable (cause : ReadError) :
    runReport typeset limit config path (.error cause) =
      some ⟨1, unlines ["Computation Tracing ENABLED"],
        line s!"error: {(Failure.unloadable path cause).message}"⟩ := rfl

/-- The cycles that an outcome traces stand between the opening and the ending. -/
lemma printed_eq (path : String) (config : Config) (text : String) (cs : List Cycle)
    (more : List Event) (ending : List String) :
    unlines (opening path config text) ++ traceText (cs.map .cycle ++ more) ++ unlines ending =
      printed path config text cs (more.map Event.text ++ ending) := by
  simp only [printed, traceText, unlines_append, List.map_append, List.map_map, String.append_assoc]
  rfl

lemma reportOf_error {e : Failure} {s : Kernel} (h : s.display typeset = .ok shown) :
    reportOf typeset path config text ⟨.error e, s, cs.map .cycle⟩ =
      ⟨1, printed path config text cs [shown], line s!"error: {e.message}"⟩ := by
  have hprinted := printed_eq path config text cs [] [shown]
  rw [List.append_nil, List.map_nil, List.nil_append, unlines_singleton] at hprinted
  rw [← hprinted]
  simp only [reportOf, h]
  rfl

lemma reportOf_halted {s : Kernel} {n k : ℕ} {state : ProcessState}
    (h : s.display typeset = .ok shown) :
    reportOf typeset path config text ⟨.ok ⟨n, k, state⟩, s, cs.map .cycle ++ [.halted n k]⟩ =
      ⟨0, printed path config text cs [s!"Halted after {n} cycles at PC={k}", shown,
        s!"Halted after {n} cycles."], ""⟩ := by
  have hprinted := printed_eq path config text cs [.halted n k]
    ([shown] ++ [s!"Halted after {n} cycles."])
  rw [unlines_append, unlines_singleton, unlines_singleton, ← String.append_assoc] at hprinted
  simp only [reportOf, h]
  exact congrArg (Report.mk 0 · "") hprinted

lemma reportOf_undisplayed {o : Outcome Summary} {message : String}
    (h : o.kernel.display typeset = .error message) :
    reportOf typeset path config text o =
      ⟨101, unlines (opening path config text ++ o.trace.map Event.text), line message⟩ := by
  simp only [reportOf, h, unlines_append]
  rfl

/-- The outcomes of a run are reported, each in its way. -/
lemma reports_iff : Reports typeset path config (.ok text) r ↔
    ∃ o, (ready config (linesOf text)).Iterates config.budget o ∧
      r = reportOf typeset path config text o := by
  constructor
  · intro h
    cases h with
    | halted cycles permits process halts display =>
      exact ⟨_, .halted cycles permits process halts, (reportOf_halted display).symm⟩
    | failed cycles permits fails display =>
      exact ⟨_, .failed cycles permits fails, (reportOf_error display).symm⟩
    | exhausted cycles used goes_on display =>
      exact ⟨_, .exhausted cycles used goes_on, (reportOf_error display).symm⟩
    | undisplayed iterates display =>
      exact ⟨_, iterates, (reportOf_undisplayed display).symm⟩
  · rintro ⟨o, ho, rfl⟩
    rcases hd : o.kernel.display typeset with message | shown
    · rw [reportOf_undisplayed hd]
      exact .undisplayed ho hd
    · cases ho with
      | halted cycles permits process halts =>
        rw [reportOf_halted hd]
        exact .halted cycles permits process halts hd
      | failed cycles permits fails =>
        rw [reportOf_error hd]
        exact .failed cycles permits fails hd
      | exhausted cycles used goes_on =>
        rw [reportOf_error hd]
        exact .exhausted cycles used goes_on hd

lemma budget_ready (config : Config) (lines : List String) :
    (ready config lines).budget = config.budget := by
  rw [ready_eq]
  rfl

/-- What a run reports is told by its cycles. -/
lemma reports_of_runReport (h : runReport typeset limit config path contents = some r) :
    Reports typeset path config contents r := by
  rcases contents with cause | text
  · rw [runReport_unreadable, Option.some.injEq] at h
    subst h
    exact .unreadable
  · rw [runReport_text] at h
    obtain ⟨o, ho, rfl⟩ := Option.map_eq_some_iff.mp h
    have hiter := iterates_of_run (dispatched?_ready config (linesOf text)) ho
    rw [budget_ready] at hiter
    exact reports_iff.mpr ⟨o, hiter, rfl⟩

/-- What the cycles tell is reported, if the run is followed for long enough. -/
lemma runReport_of_reports (h : Reports typeset path config contents r) :
    ∃ n, ∀ limit ≥ n, runReport typeset limit config path contents = some r := by
  rcases contents with cause | text
  · cases h with
    | unreadable => exact ⟨0, fun limit _ => runReport_unreadable cause⟩
  · obtain ⟨o, ho, rfl⟩ := reports_iff.mp h
    rw [← budget_ready config (linesOf text)] at ho
    obtain ⟨n, hn⟩ := run_of_iterates (dispatched?_ready config (linesOf text)) ho
    exact ⟨n, fun limit hl => by rw [runReport_text, hn limit hl, Option.map_some]⟩

lemma Reports.unique {r' : Report} (h : Reports typeset path config contents r)
    (h' : Reports typeset path config contents r') : r = r' := by
  obtain ⟨n, hn⟩ := runReport_of_reports h
  obtain ⟨n', hn'⟩ := runReport_of_reports h'
  have hr := hn (max n n') (le_max_left _ _)
  rw [hn' (max n n') (le_max_right _ _)] at hr
  exact (Option.some.inj hr).symm

/-! ### Exit codes -/

/-- The program comes to its boundary, and the cycles that it completes until then are permitted. -/
def Finishes (config : Config) (text : String) : Prop :=
  ∃ cs s, (ready config (linesOf text)).Cycles cs s ∧ s.isHalted = true ∧
    Permits config.budget cs.length

/-- The typesetter makes the tables of the kernel that the run leaves. -/
def Displayed (typeset : Typesetter) (config : Config) (text : String) : Prop :=
  ∀ o, (ready config (linesOf text)).Iterates config.budget o →
    ∃ shown, o.kernel.display typeset = .ok shown

/-- **The tables of every file without an escape character are made.** -/
theorem displayed_of_unstyled (config : Config) (h : Text.Unstyled text.toList) :
    Displayed Grid.typeset config text := by
  have hlines : ∀ l ∈ linesOf text, Text.Unstyled l.toList := by
    intro l hl
    obtain ⟨s, hs, rfl⟩ := List.mem_map.mp hl
    rw [String.toList_ofList]
    exact fun hc => h (Text.mem_of_mem_lines hs hc)
  intro o ho
  have hdispatched := dispatched?_ready config (linesOf text)
  rw [← budget_ready config (linesOf text)] at ho
  obtain ⟨n, hn⟩ := run_of_iterates hdispatched ho
  obtain ⟨m, cs, hleaves, hkernel, -⟩ := run_leaves hdispatched (hn n le_rfl)
  rw [hkernel]
  exact display_of_unstyled (hleaves.unstyled (unstyled_readyMachine config hlines))

lemma reports_of_finishes (path : String) (h : Finishes config text)
    (hd : Displayed typeset config text) :
    ∃ r, Reports typeset path config (.ok text) r ∧ r.exitCode = 0 := by
  obtain ⟨cs, s, cycles, halts, permits⟩ := h
  obtain ⟨m, -, rfl, -⟩ := turns_of_cycles cycles (dispatched?_ready config (linesOf text))
  obtain ⟨shown, display⟩ := hd _ (.halted cycles permits rfl halts)
  exact ⟨_, .halted cycles permits rfl halts display, rfl⟩

/-- The exit code is 101 if the tables cannot be made. -/
lemma Reports.exitCode_eq_breakdown (h : Reports typeset path config contents r) :
    r.exitCode = 101 ↔ ∃ text, contents = .ok text ∧ ¬Displayed typeset config text := by
  constructor
  · intro hcode
    cases h with
    | unreadable | halted | failed | exhausted => simp at hcode
    | @undisplayed text message o iterates display =>
      refine ⟨text, rfl, fun hd => ?_⟩
      obtain ⟨shown, hshown⟩ := hd o iterates
      simp [hshown] at display
  · rintro ⟨text, rfl, hd⟩
    simp only [Displayed, not_forall] at hd
    obtain ⟨o, iterates, hnone⟩ := hd
    rcases hdisplay : o.kernel.display typeset with message | shown
    · rw [h.unique (.undisplayed iterates hdisplay)]
    · exact absurd ⟨shown, hdisplay⟩ hnone

/-- Otherwise it is zero if the program has been read and has finished, and one if not. -/
lemma Reports.exitCode_of_displayed (h : Reports typeset path config contents r)
    (hd : ∀ text, contents = .ok text → Displayed typeset config text) :
    r.exitCode ≤ 1 ∧ (r.exitCode = 0 ↔ ∃ text, contents = .ok text ∧ Finishes config text) := by
  refine ⟨?_, fun hzero => ?_, ?_⟩
  · cases h with
    | unreadable | halted | failed | exhausted => simp
    | @undisplayed text message o iterates display =>
      obtain ⟨shown, hshown⟩ := hd text rfl o iterates
      simp [hshown] at display
  · cases h with
    | unreadable | failed | exhausted | undisplayed => simp at hzero
    | halted cycles permits process halts =>
      exact ⟨_, rfl, _, _, cycles, by rw [Kernel.isHalted, process]; exact halts, permits⟩
  · rintro ⟨text, rfl, hfinishes⟩
    obtain ⟨r', hr', hzero⟩ := reports_of_finishes path hfinishes (hd text rfl)
    rw [h.unique hr', hzero]

/-! ### A program of one instruction -/

def haltCycle : Cycle := ⟨0, 0x92000000, .decode 0x92000000, .halt⟩

/-- The kernel after the cycle that halts, and what a run makes of it. -/
def haltKernel : Kernel := (ready { budget := some 1 } ["0x92000000"]).cycle.kernel

def haltedKernel : Kernel := { haltKernel with process := some ⟨1, 1, 1, .terminated⟩ }

def haltedCells : Grid where
  titles := [⟨"Address", .right⟩, ⟨"Contents", .left⟩, ⟨"Decoded", .left⟩]
  rows := [[⟨"M[0] =", .right⟩, ⟨"0x92000000", .left⟩, ⟨"HLT(0)", .left⟩],
    [⟨"* --> M[1] =", .right⟩, ⟨"end", .left⟩, ⟨"", .left⟩]]

/-- The instruction is in register 2. -/
def haltedRegisters : Grid :=
  registerGrid 'R' (["0", "0", "-1845493760"] ++ List.replicate 13 "0") (some 2)

lemma cycles_halt :
    (ready { budget := some 1 } (linesOf "0x92000000")).Cycles [haltCycle] haltKernel := by
  have hlines : linesOf "0x92000000" = ["0x92000000"] := by decide +kernel
  rw [hlines]
  exact .cons (by decide +kernel) (.nil _)

lemma process_haltKernel : haltKernel.process = some ⟨1, 1, 1, .terminated⟩ := by decide +kernel

lemma printed_halt (tables : String) :
    printed "halt" { budget := some 1 } "0x92000000" [haltCycle] ["Halted after 1 cycles at PC=1",
        tables, "Halted after 1 cycles."] =
      unlines ["Computation Tracing ENABLED", "Loaded 1 lines from halt",
        "Long-term scheduler: 1 instruction cells, 2 cells in all",
        "Short-term scheduler: dispatched PC=0 instructions=1 data offset=1 state=Ready",
        "[   0] 0x92000000  HLT(0)                   halt", "Halted after 1 cycles at PC=1",
        tables, "Halted after 1 cycles."] := by
  have hopening : opening "halt" { budget := some 1 } "0x92000000" =
      ["Computation Tracing ENABLED", "Loaded 1 lines from halt",
        "Long-term scheduler: 1 instruction cells, 2 cells in all",
        "Short-term scheduler: dispatched PC=0 instructions=1 data offset=1 state=Ready"] := by
    decide +kernel
  have hline : cycleLine haltCycle = "[   0] 0x92000000  HLT(0)                   halt" := by
    decide +kernel
  rw [printed, hopening, List.map_singleton, hline]
  rfl

lemma display_haltedKernel (h : haltedKernel.display typeset = .ok shown) :
    ∃ memory registers tables,
      typeset haltedCells = .ok memory ∧ typeset haltedRegisters = .ok registers ∧
      typeset ⟨[⟨"Memory", .left⟩, ⟨"Registers", .left⟩],
        [[⟨memory, .left⟩, ⟨registers, .left⟩]]⟩ = .ok tables ∧
      shown = "PC=1 instructions=1 data offset=1 state=Terminated\tcycles=1\n" ++ tables := by
  have hcells : haltedKernel.memory.grid haltedKernel.process = haltedCells := by decide +kernel
  have hvalues : haltedKernel.processor.registers.grid = haltedRegisters := by decide +kernel
  have hheading : haltedKernel.process.elim "No process scheduled." ControlBlock.text ++
      s!"\tcycles={haltedKernel.processor.cycles}\n" =
      "PC=1 instructions=1 data offset=1 state=Terminated\tcycles=1\n" := by decide +kernel
  obtain ⟨memory, registers, tables, hmemory, hregisters, htables, htext⟩ := display_eq_ok_iff.mp h
  rw [hcells] at hmemory
  rw [hvalues] at hregisters
  rw [hheading] at htext
  exact ⟨memory, registers, tables, hmemory, hregisters, htables, htext⟩

/-! ### The report of a run -/

/-- **The command line reports a run faithfully.** Let the words ask for a run, and let the one file
that they name be there or not. If the run ends, what is reported is told by its cycles: after the
lines of loading and scheduling one line for every completed cycle, and the kernel as it is left;
with a success their number, twice, and with a failure no more of it, but its message on standard
error. If the file cannot be loaded, there is only the banner. If the typesetter makes the tables of
that kernel, the exit code is zero exactly if the file holds text and the program comes to its
boundary without a failing cycle and within its budget, and one otherwise; if it does not, the
program breaks down where they would have stood. -/
theorem run_reported_faithfully {parse : ArgumentReader} {words : List String} {path : String}
    {flags : Flags} (hparse : parse words = .ok (.run path flags)) (typeset : Typesetter)
    (files : String → Except ReadError ByteArray) :
    let read := fun path => files path >>= textOfBytes
    let answer := fun limit => respond (m := Id) parse typeset limit read words
    (∀ limit r, answer limit = some r → Reports typeset path flags.config (read path) r) ∧
    (∀ r, Reports typeset path flags.config (read path) r →
      ∃ n, ∀ limit ≥ n, answer limit = some r) ∧
    ∀ r, Reports typeset path flags.config (read path) r →
      (r.exitCode = 101 ↔
        ∃ text, files path = .ok text.toUTF8 ∧ ¬Displayed typeset flags.config text) ∧
      ((∀ text, files path = .ok text.toUTF8 → Displayed typeset flags.config text) →
        r.exitCode ≤ 1 ∧
        (r.exitCode = 0 ↔ ∃ text, files path = .ok text.toUTF8 ∧ Finishes flags.config text)) := by
  intro read answer
  have hanswer : ∀ limit, answer limit = runReport typeset limit flags.config path (read path) := by
    intro limit
    simp only [answer, respond, hparse]
    rfl
  have htext : ∀ text, read path = .ok text ↔ files path = .ok text.toUTF8 := by
    intro text
    simp only [read, bind_eq_ok, textOfBytes_eq_ok_iff]
    constructor
    · rintro ⟨bytes, hfile, rfl⟩
      exact hfile
    · exact fun hfile => ⟨_, hfile, rfl⟩
  simp only [hanswer, ← htext]
  exact ⟨fun limit r => reports_of_runReport, fun r => runReport_of_reports,
    fun r h => ⟨h.exitCode_eq_breakdown, h.exitCode_of_displayed⟩⟩

/-- A directory with one file, which holds a program of one instruction that halts. One run is of this
file, and may take one cycle; the other one is of a file that is not there. -/
theorem run_reported_faithfully_halt :
    let files : String → Except ReadError ByteArray :=
      fun path => if path = "halt" then .ok "0x92000000".toUTF8 else .error .notFound
    let read := fun path => files path >>= textOfBytes
    let answer := fun words limit => respond (m := Id) parse Grid.typeset limit read words
    ∃ memory registers tables n,
      Grid.typeset haltedCells = .ok memory ∧ Grid.typeset haltedRegisters = .ok registers ∧
      Grid.typeset ⟨[⟨"Memory", .left⟩, ⟨"Registers", .left⟩],
        [[⟨memory, .left⟩, ⟨registers, .left⟩]]⟩ = .ok tables ∧
      (∀ limit ≥ n, answer ["run", "--max-cycles=1", "halt"] limit = some ⟨0, unlines
        ["Computation Tracing ENABLED", "Loaded 1 lines from halt",
          "Long-term scheduler: 1 instruction cells, 2 cells in all",
          "Short-term scheduler: dispatched PC=0 instructions=1 data offset=1 state=Ready",
          "[   0] 0x92000000  HLT(0)                   halt", "Halted after 1 cycles at PC=1",
          "PC=1 instructions=1 data offset=1 state=Terminated\tcycles=1\n" ++ tables,
          "Halted after 1 cycles."], ""⟩) ∧
      (∃ text, files "halt" = .ok text.toUTF8 ∧ Finishes { budget := some 1 } text) ∧
      ∀ limit ≥ n, answer ["run", "absent"] limit = some ⟨1, "Computation Tracing ENABLED\n",
        "error: cannot load program `absent`: No such file or directory (os error 2)\n"⟩ := by
  intro files read answer
  -- The file that is there.
  have hparse : parse ["run", "--max-cycles=1", "halt"] =
      .ok (.run "halt" ⟨false, false, false, some 1⟩) := by decide +kernel
  have hread : read "halt" = .ok "0x92000000" := by
    have hfile : files "halt" = .ok "0x92000000".toUTF8 := if_pos rfl
    simp only [read, hfile]
    exact textOfBytes_toUTF8 "0x92000000"
  have hpermits : Permits (some 1) [haltCycle].length := by simp [Permits]
  have hiterates : (ready { budget := some 1 } (linesOf "0x92000000")).Iterates (some 1)
      ⟨.ok ⟨1, 1, .terminated⟩, haltedKernel, [.cycle haltCycle, .halted 1 1]⟩ :=
    .halted cycles_halt hpermits process_haltKernel rfl
  obtain ⟨shown, hshown⟩ := displayed_of_unstyled { budget := some 1 } (by decide) _ hiterates
  have hreports : Reports Grid.typeset "halt" { budget := some 1 } (.ok "0x92000000") _ :=
    .halted cycles_halt hpermits process_haltKernel rfl hshown
  rw [← hread] at hreports
  obtain ⟨-, hanswer, hcode⟩ := run_reported_faithfully hparse Grid.typeset files
  obtain ⟨n, hn⟩ := hanswer _ hreports
  obtain ⟨hbreakdown, hzero⟩ := hcode _ hreports
  -- The file that is not there.
  have hparse' : parse ["run", "absent"] = .ok (.run "absent" {}) := by decide +kernel
  have habsent : read "absent" = .error .notFound := by
    have hfile : files "absent" = .error .notFound := if_neg (by decide)
    simp only [read, hfile]
    rfl
  have hreports' : Reports Grid.typeset "absent" {} (.error .notFound) _ := .unreadable
  rw [← habsent] at hreports'
  obtain ⟨n', hn'⟩ := (run_reported_faithfully hparse' Grid.typeset files).2.1 _ hreports'
  obtain ⟨memory, registers, tables, hmemory, hregisters, htables, rfl⟩ := display_haltedKernel hshown
  refine ⟨memory, registers, tables, max n n', hmemory, hregisters, htables, fun limit hl => ?_,
    ?_, fun limit hl => ?_⟩
  · have hhalted : s!"Halted after {1} cycles at PC={1}" = "Halted after 1 cycles at PC=1" := by
      decide +kernel
    have hcount : s!"Halted after {1} cycles." = "Halted after 1 cycles." := by decide +kernel
    rw [← printed_halt, ← hhalted, ← hcount]
    exact hn limit (le_of_max_le_left hl)
  · refine (hzero fun text htext => ?_).2.mp rfl
    by_contra hd
    exact absurd (hbreakdown.mpr ⟨text, htext, hd⟩) (by simp)
  · have hfailure : Report.failure (unlines ["Computation Tracing ENABLED"])
        (Failure.unloadable "absent" .notFound).message = ⟨1, "Computation Tracing ENABLED\n",
          "error: cannot load program `absent`: No such file or directory (os error 2)\n"⟩ := by
      decide +kernel
    rw [← hfailure]
    exact hn' limit (le_of_max_le_right hl)

end Command

end CellMachine
