import CellMachine.Assembly.Program
import CellMachine.Console.Report
import CellMachine.Kernel.Calls
import CellMachine.Proofs.Markers
import CellMachine.Proofs.Scheduling

/-!
Program files. The lines of a file are the lines it was made of; those of an assembled program are
scheduled as its instructions, the data marker and the data words, and the end marker.
-/

namespace CellMachine

lemma textOfBytes_toUTF8 (s : String) : textOfBytes s.toUTF8 = .ok s := by
  have hvalid : s.toByteArray.IsValidUTF8 := s.isValidUTF8
  simp [textOfBytes, String.fromUTF8?, String.fromUTF8, hvalid]

lemma toList_unlines (ls : List String) :
    (Report.unlines ls).toList = Text.unlines (ls.map String.toList) := by
  induction ls with
  | nil => rfl
  | cons l ls ih => simp_all [Report.unlines, Report.line]

namespace Kernel

/-- A file of lines boots, and its program is ready. -/
theorem boot_lines (config : Config) (path : String) {lines : List String}
    (h : ∀ l ∈ lines, Text.IsLine l.toList) :
    (boot config path (textOfBytes (Report.unlines lines).toUTF8)).result = .ok () ∧
      (boot config path (textOfBytes (Report.unlines lines).toUTF8)).kernel = ready config lines := by
  have hlines : (Text.lines (Report.unlines lines).toList).map String.ofList = lines := by
    rw [toList_unlines, Text.lines_unlines (by simpa using h)]
    simp
  simp only [boot, textOfBytes_toUTF8, load, hlines]
  exact ⟨rfl, rfl⟩

end Kernel

namespace Assembly

lemma written_of_instructionLine (i : Instruction) :
    ∀ c ∈ (instructionLine i).toList, c ∈ Numeral.written := by
  simpa [instructionLine] using Numeral.written_of_hexadecimalWord

lemma written_of_dataLine (v : Int32) : ∀ c ∈ (dataLine v).toList, c ∈ Numeral.written := by
  simpa [dataLine] using Numeral.written_of_decimal

lemma isLine_of_written {s : List Char} (h : ∀ c ∈ s, c ∈ Numeral.written) : Text.IsLine s := by
  refine ⟨fun hn => absurd (h _ hn) (by decide), fun hr => ?_⟩
  exact absurd (h _ (List.mem_of_getLast? hr)) (by decide)

lemma isLine_of_mem_lines (p : Program) : ∀ l ∈ p.lines, Text.IsLine l.toList := by
  intro l hl
  obtain ⟨is, data⟩ := p
  rcases List.mem_append.mp hl with hl | hl
  · obtain ⟨i, -, rfl⟩ := List.mem_map.mp hl
    exact isLine_of_written (written_of_instructionLine i)
  · rcases data with _ | vs
    · simp at hl
    · rcases List.mem_cons.mp hl with rfl | hl
      · exact ⟨by decide, by decide⟩
      · obtain ⟨v, -, rfl⟩ := List.mem_map.mp hl
        exact isLine_of_written (written_of_dataLine v)

def instructionCell (i : Instruction) : Cell := ⟨instructionLine i⟩

def Program.cells (p : Program) : List Cell :=
  p.instructions.map instructionCell ++
    match p.data with
    | none => []
    | some vs => .dataMarker :: vs.map .ofWord

lemma instructionCell_plain (i : Instruction) :
    (instructionCell i).isJobHeader = false ∧ (instructionCell i).isDataMarker = false :=
  Cell.not_marker_of_written (written_of_instructionLine i)

lemma ofWord_plain (v : Int32) :
    (Cell.ofWord v).isJobHeader = false ∧ (Cell.ofWord v).isDataMarker = false :=
  Cell.not_marker_of_written (written_of_dataLine v)

/-- **The image of an assembled program.** -/
theorem image_lines (p : Program) :
    Image.ofCells (p.lines.map Cell.mk) = ⟨p.cells ++ [.endMarker], p.instructions.length⟩ := by
  obtain ⟨is, data⟩ := p
  have hcode : ∀ c ∈ is.map instructionCell, c.isJobHeader = false ∧ c.isDataMarker = false := by
    simpa using fun i _ => instructionCell_plain i
  have hmark := Image.map_mark_of_not_marker fun c hc => (hcode c hc).2
  rcases data with _ | vs
  · have hlines : (Program.lines ⟨is, none⟩).map Cell.mk = is.map instructionCell := by
      simp only [Program.lines, List.append_nil, List.map_map]
      rfl
    rw [hlines, Image.ofCells, Image.body_of_not_header fun c hc => (hcode c hc).1, hmark,
      Image.lastMarker?_of_not_marker fun c hc => (hcode c hc).2]
    simp [Program.cells]
  · have hdata : ∀ c ∈ vs.map Cell.ofWord, c.isJobHeader = false ∧ c.isDataMarker = false := by
      simpa using fun v _ => ofWord_plain v
    have hlines : (Program.lines ⟨is, some vs⟩).map Cell.mk =
        is.map instructionCell ++ ⟨boundaryLine⟩ :: vs.map Cell.ofWord := by
      simp only [Program.lines, List.map_append, List.map_cons, List.map_map]
      rfl
    have hheader : ∀ c ∈ is.map instructionCell ++ ⟨boundaryLine⟩ :: vs.map Cell.ofWord,
        c.isJobHeader = false := by
      intro c hc
      rcases List.mem_append.mp hc with hc | hc
      · exact (hcode c hc).1
      · rcases List.mem_cons.mp hc with rfl | hc
        · decide
        · exact (hdata c hc).1
    rw [hlines, Image.ofCells, Image.body_of_not_header hheader,
      Image.lastMarker?_append_cons _ (by decide) fun c hc => (hdata c hc).2, List.map_append, hmark,
      List.map_cons, Image.map_mark_of_not_marker fun c hc => (hdata c hc).2]
    simp [Program.cells, Image.mark, show (Cell.mk boundaryLine).isDataMarker = true by decide]

end Assembly

end CellMachine
