import CellMachine.Proofs.Budgets
import CellMachine.Proofs.CodeIntegrity
import CellMachine.Proofs.Disassembly
import CellMachine.Table.Typesetting
import CellMachine.Table.Views

/-!
Tables that can be made. A text without an escape character has no style to hide, so it has a width;
the tables made of such texts are such texts again, and can stand within another table.
-/

namespace CellMachine

namespace Text

variable {s : List Char}

/-- No style begins in it. -/
def Unstyled (s : List Char) : Prop := '\x1b' ∉ s

instance (s : List Char) : Decidable (Unstyled s) := inferInstanceAs (Decidable (_ ∉ _))

lemma hidden_of_unstyled (h : Unstyled s) : StyleScan.hidden .plain s = 0 := by
  induction s with
  | nil => rfl
  | cons c s ih =>
    obtain ⟨hc, hs⟩ : '\x1b' ≠ c ∧ '\x1b' ∉ s := by simpa [Unstyled] using h
    simp [StyleScan.hidden, StyleScan.step, hc.symm, ih hs]

lemma width_of_unstyled (h : Unstyled s) : width s = .ok (measure s).1.toNat := by
  simp [width, hidden_of_unstyled h]

/-- A family takes the columns of one person, but its members are hidden one by one. -/
example : (width "\x1b[👨\u200d👩\u200d👧\u200d👦".toList).isOk = false := by decide +kernel

lemma unstyled_append {t : List Char} (hs : Unstyled s) (ht : Unstyled t) : Unstyled (s ++ t) := by
  simpa [Unstyled] using ⟨hs, ht⟩

lemma unstyled_replicate {c : Char} (h : c ≠ '\x1b') (n : ℕ) : Unstyled (List.replicate n c) :=
  fun hm => h (List.eq_of_mem_replicate hm).symm

lemma unstyled_unlines {ls : List (List Char)} (h : ∀ l ∈ ls, Unstyled l) :
    Unstyled (unlines ls) := by
  intro hm
  obtain ⟨l, hl, hc⟩ := List.mem_flatMap.mp hm
  rcases List.mem_append.mp hc with hc | hc
  · exact h l hl hc
  · exact absurd hc (by decide)

lemma unstyled_of_written (h : ∀ c ∈ s, c ∈ Numeral.written) : Unstyled s :=
  fun hm => absurd (h _ hm) (by decide)

lemma unstyled_digits (n : ℕ) : Unstyled (Numeral.digits n) :=
  Numeral.not_mem_digits (by decide)

end Text

/-- If something can be made of every item, it can be made of all of them in order. -/
lemma exists_mapM {α β ε : Type} {f : α → Except ε β} {P : β → Prop} {xs : List α}
    (h : ∀ x ∈ xs, ∃ y, f x = .ok y ∧ P y) : ∃ ys, xs.mapM f = .ok ys ∧ ∀ y ∈ ys, P y := by
  induction xs with
  | nil => exact ⟨[], rfl, by simp⟩
  | cons x xs ih =>
    obtain ⟨y, hy, hp⟩ := h x (by simp)
    obtain ⟨ys, hys, hps⟩ := ih fun x' hx => h x' (by simp [hx])
    refine ⟨y :: ys, ?_, by simpa using ⟨hp, hps⟩⟩
    rw [List.mapM_cons, hy, hys]
    rfl

namespace Grid

open Text

variable {g : Grid} {e : Entry} {b : Block}

def Entry.Unstyled (e : Entry) : Prop := Text.Unstyled e.text.toList

instance (e : Entry) : Decidable e.Unstyled := inferInstanceAs (Decidable (Text.Unstyled _))

def Unstyled (g : Grid) : Prop :=
  (∀ e ∈ g.titles, e.Unstyled) ∧ ∀ row ∈ g.rows, ∀ e ∈ row, e.Unstyled

def Block.Unstyled (b : Block) : Prop := ∀ l ∈ b.lines, Text.Unstyled l.1

lemma measure_of_unstyled (h : e.Unstyled) : ∃ b, e.measure = .ok b ∧ b.Unstyled := by
  obtain ⟨ls, hls, hunstyled⟩ :
      ∃ ls, (lines e.text.toList).mapM (fun s => (width s).map (s, ·)) = .ok ls ∧
        ∀ l ∈ ls, Text.Unstyled l.1 := by
    refine exists_mapM fun s hs => ?_
    have hline : Text.Unstyled s := fun hc => h (mem_of_mem_lines hs hc)
    exact ⟨(s, (measure s).1.toNat), by rw [width_of_unstyled hline]; rfl, hline⟩
  refine ⟨⟨ls, e.alignment⟩, ?_, hunstyled⟩
  rw [Entry.measure, hls]
  rfl

lemma Block.unstyled_line (h : b.Unstyled) (width k : ℕ) : Text.Unstyled (b.line width k) := by
  have hline : Text.Unstyled (b.lines.getD k ([], 0)).1 := by
    rcases hk : b.lines[k]? with _ | l
    · simp [hk, Text.Unstyled]
    · simpa [hk] using h l (List.mem_of_getElem? hk)
  have hfill : ∀ n, Text.Unstyled (List.replicate n ' ') := unstyled_replicate (by decide)
  rw [Block.line]
  cases b.alignment with
  | left => exact unstyled_append hline (hfill _)
  | right => exact unstyled_append (hfill _) hline

lemma unstyled_framed {bar : Char} {pieces : List (List Char)} (hb : bar ≠ '\x1b')
    (h : ∀ p ∈ pieces, Text.Unstyled p) : Text.Unstyled (framed bar pieces) := by
  intro hm
  simp only [framed, List.cons_append, List.mem_cons, List.mem_append, List.not_mem_nil, or_false]
    at hm
  rcases hm with hm | hm | hm
  · exact absurd hm (by decide)
  · rcases mem_joinWith hm with hm | ⟨p, hp, hm⟩
    · exact hb (List.mem_singleton.mp hm).symm
    · exact h p hp hm
  · exact absurd hm (by decide)

lemma unstyled_rowLines {row : List Block} (h : ∀ b ∈ row, b.Unstyled) (ws : List ℕ) :
    ∀ l ∈ rowLines ws row, Text.Unstyled l := by
  intro l hl
  obtain ⟨k, -, rfl⟩ := List.mem_map.mp hl
  refine unstyled_framed (by decide) fun p hp => ?_
  obtain ⟨⟨b, w⟩, hbw, rfl⟩ := List.mem_map.mp hp
  have hline := Block.unstyled_line (h b (List.of_mem_zip hbw).1) w k
  exact unstyled_append (s := [' ']) (by decide) (unstyled_append hline (by decide))

lemma unstyled_rule {crossing : Char} (hc : crossing ≠ '\x1b') (ws : List ℕ) :
    Text.Unstyled (rule crossing ws) := by
  refine unstyled_framed hc fun p hp => ?_
  obtain ⟨w, -, rfl⟩ := List.mem_map.mp hp
  exact unstyled_replicate (by decide) _

/-- **A table of texts without styles can be made**, and is such a text. -/
theorem typeset_of_unstyled (h : g.Unstyled) :
    ∃ text, typeset g = .ok text ∧ Text.Unstyled text.toList := by
  obtain ⟨titles, htitles, hunstyled⟩ := exists_mapM fun e he => measure_of_unstyled (h.1 e he)
  obtain ⟨rows, hrows, hunstyled'⟩ :
      ∃ rows, g.rows.mapM (fun row => row.mapM Entry.measure) = .ok rows ∧
        ∀ row ∈ rows, ∀ b ∈ row, b.Unstyled :=
    exists_mapM fun row hrow => exists_mapM fun e he => measure_of_unstyled (h.2 row hrow e he)
  refine ⟨_, by rw [typeset, htitles]; simp only [bind, Except.bind, hrows]; rfl, ?_⟩
  rw [String.toList_ofList]
  refine unstyled_unlines fun l hl => ?_
  simp only [List.mem_append, List.mem_singleton, List.mem_flatMap] at hl
  rcases hl with ((hl | rfl) | ⟨row, hrow, hl⟩) | rfl
  · exact unstyled_rowLines hunstyled _ l hl
  · exact unstyled_rule (by decide) _
  · exact unstyled_rowLines (hunstyled' row hrow) _ l hl
  · exact unstyled_rule (by decide) _

end Grid

open Text

lemma unstyled_rowLabel {name : String} (h : Unstyled name.toList) (k : ℕ) (marked : Bool) :
    (rowLabel name k marked).Unstyled := by
  have hmark : Unstyled (if marked then "* --> " else "").toList := by
    cases marked <;> decide
  have hk : Unstyled (toString k).toList := by
    rw [Nat.toString_eq_repr, Nat.toList_repr]
    exact unstyled_digits k
  rw [Grid.Entry.Unstyled, rowLabel, String.toList_append]
  refine unstyled_append hmark ?_
  simp only [String.toList_append]
  exact unstyled_append (unstyled_append (unstyled_append h (by decide)) hk) (by decide)

lemma unstyled_registerGrid {name : Char} {values : List String} (hn : name ≠ '\x1b')
    (h : ∀ v ∈ values, Unstyled v.toList) (marked : Option ℕ) :
    (registerGrid name values marked).Unstyled := by
  refine ⟨by simp only [registerGrid]; decide, fun row hrow e he => ?_⟩
  obtain ⟨⟨v, k⟩, hv, rfl⟩ := List.mem_map.mp hrow
  have hname : Unstyled (String.singleton name).toList := by
    simpa [Unstyled] using hn.symm
  have hvalue : Unstyled v.toList := h v (List.fst_mem_of_mem_zipIdx hv)
  simp only [List.mem_cons, List.not_mem_nil, or_false] at he
  rcases he with rfl | rfl
  · exact unstyled_rowLabel hname k _
  · exact hvalue

lemma Registers.unstyled_grid (r : Registers) : r.grid.Unstyled := by
  refine unstyled_registerGrid (by decide) (fun v hv => ?_) _
  obtain ⟨n, -, rfl⟩ := List.mem_map.mp hv
  rw [String.toList_ofList]
  exact unstyled_of_written Numeral.written_of_decimal

def Memory.Unstyled (m : Memory) : Prop := ∀ c ∈ m.cells, Text.Unstyled c.text.toList

lemma Memory.unstyled_grid {m : Memory} (h : m.Unstyled) (process : Option ControlBlock) :
    (m.grid process).Unstyled := by
  refine ⟨by simp only [grid]; decide, fun row hrow e he => ?_⟩
  obtain ⟨⟨c, k⟩, hc, rfl⟩ := List.mem_map.mp hrow
  have hcell : Text.Unstyled c.text.toList :=
    h c (Array.mem_def.mpr (List.fst_mem_of_mem_zipIdx hc))
  simp only [List.mem_cons, List.not_mem_nil, or_false] at he
  rcases he with rfl | rfl | rfl
  · exact unstyled_rowLabel (by decide) k _
  · exact hcell
  · rw [Grid.Entry.Unstyled]
    split
    · next w _ _ =>
      rw [Instruction.text, String.toList_ofList]
      exact Instruction.not_mem_chars (by decide) (by decide)
    · decide

namespace Kernel

variable {s : Kernel} {typeset : Typesetter} {shown : String}

/-- A kernel is displayed by its process, its count of cycles, and three tables. -/
lemma display_eq_ok_iff :
    s.display typeset = .ok shown ↔ ∃ memory registers tables,
      typeset (s.memory.grid s.process) = .ok memory ∧
      typeset s.processor.registers.grid = .ok registers ∧
      typeset (grid memory registers) = .ok tables ∧
      shown = s.process.elim "No process scheduled." ControlBlock.text ++
        s!"\tcycles={s.processor.cycles}\n" ++ tables := by
  have hdisplay : s.display typeset =
      typeset (s.memory.grid s.process) >>= fun memory =>
      typeset s.processor.registers.grid >>= fun registers =>
      typeset (grid memory registers) >>= fun tables =>
        .ok (s.process.elim "No process scheduled." ControlBlock.text ++
          s!"\tcycles={s.processor.cycles}\n" ++ tables) := by
    rcases hprocess : s.process with _ | p <;>
      simp only [display, hprocess, String.append_assoc] <;> rfl
  simp only [hdisplay, bind_eq_ok, Except.ok.injEq]
  constructor
  · rintro ⟨memory, hmemory, registers, hregisters, tables, htables, rfl⟩
    exact ⟨memory, registers, tables, hmemory, hregisters, htables, rfl⟩
  · rintro ⟨memory, registers, tables, hmemory, hregisters, htables, rfl⟩
    exact ⟨memory, hmemory, registers, hregisters, tables, htables, rfl⟩

lemma unstyled_grid {memory registers : String} (hm : Unstyled memory.toList)
    (hr : Unstyled registers.toList) : (grid memory registers).Unstyled := by
  refine ⟨by simp only [grid]; decide, fun row hrow e he => ?_⟩
  obtain rfl := List.mem_singleton.mp hrow
  simp only [List.mem_cons, List.not_mem_nil, or_false] at he
  rcases he with rfl | rfl
  · exact hm
  · exact hr

/-- **A kernel whose cells have no styles can be displayed.** -/
theorem display_of_unstyled (h : s.memory.Unstyled) :
    ∃ shown, s.display Grid.typeset = .ok shown := by
  obtain ⟨memory, hmemory, hm⟩ := Grid.typeset_of_unstyled (s.memory.unstyled_grid h s.process)
  obtain ⟨registers, hregisters, hr⟩ :=
    Grid.typeset_of_unstyled s.processor.registers.unstyled_grid
  obtain ⟨tables, htables, -⟩ := Grid.typeset_of_unstyled (unstyled_grid hm hr)
  exact ⟨_, display_eq_ok_iff.mpr ⟨memory, registers, tables, hmemory, hregisters, htables, rfl⟩⟩

end Kernel

/-! ### Runs leave cells without styles -/

section Runs

variable {m m' : Machine}

lemma Cell.unstyled_ofWord (v : Int32) : Unstyled (Cell.ofWord v).text.toList := by
  rw [Cell.ofWord, String.toList_ofList]
  exact unstyled_of_written Numeral.written_of_decimal

lemma Machine.unstyled_apply (h : m.memory.Unstyled) (e : Effect) :
    (m.apply e).memory.Unstyled := by
  cases e with
  | skip | setRegister | jump | halt => exact h
  | store index v =>
    intro c hc
    rcases Array.mem_or_eq_of_mem_setIfInBounds hc with hc | rfl
    · exact h c hc
    · exact Cell.unstyled_ofWord v

lemma Machine.unstyled_of_turn {c : Cycle} (h : m.memory.Unstyled)
    (ht : m.turn = (.ok (some c), m')) : m'.memory.Unstyled := by
  obtain ⟨-, m₁, hc, rfl⟩ := turn_eq_ok_iff.mp ht
  rw [memory_settle, hc.next]
  exact unstyled_apply (m := (m.withState .running).load c.word) h c.effect

lemma Machine.Leaves.unstyled {r : Except Failure Unit} {cs : List Cycle}
    (h : Leaves m r m' cs) (hm : m.memory.Unstyled) : m'.memory.Unstyled :=
  (h.invariant (P := fun m => m.memory.Unstyled) (Q := fun _ => True)
    (fun _ _ _ hm ht => ⟨trivial, unstyled_of_turn hm ht⟩) (fun _ _ hm => hm)
    (fun m hm => by rwa [memory_afterFetch]) hm).1

lemma Image.unstyled_ofCells {cells : List Cell} (h : ∀ c ∈ cells, Unstyled c.text.toList) :
    ∀ c ∈ (Image.ofCells cells).cells, Unstyled c.text.toList := by
  have hbody : ∀ c ∈ body cells, c ∈ cells := by
    cases cells with
    | nil => simp [body]
    | cons d rest =>
      rw [body]
      split <;> simp +contextual
  intro c hc
  rcases List.mem_append.mp hc with hc | hc
  · obtain ⟨d, hd, rfl⟩ := List.mem_map.mp hc
    rw [mark]
    split
    · decide
    · exact h d (hbody d hd)
  · obtain rfl := List.mem_singleton.mp hc
    decide

lemma Kernel.unstyled_readyMachine (config : Config) {lines : List String}
    (h : ∀ l ∈ lines, Unstyled l.toList) : (readyMachine config lines).memory.Unstyled := by
  have hcells : ∀ c ∈ lines.map Cell.mk, Unstyled c.text.toList := by simpa using h
  intro c hc
  refine Image.unstyled_ofCells hcells c ?_
  simpa [readyMachine] using hc

end Runs

end CellMachine
