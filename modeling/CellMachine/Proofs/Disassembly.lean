import CellMachine.Proofs.ProgramFiles
import CellMachine.Proofs.Statements

/-!
Disassembly. A program is written as a source with a statement for every instruction, in which no
character starts a comment and no line looks like another one's end; assembling that source gives
the program back.
-/

namespace CellMachine

open Text

namespace Instruction

variable {i : Instruction} {c : Char}

/-- What a statement is written with, besides letters and digits. -/
def punctuation : List Char := ['.', '(', ')', ',', ' ']

lemma isAlphanum_of_mem_layoutSuffix {l : Layout} (h : c ∈ layoutSuffix l) :
    c.isAlphanum = true ∨ c ∈ punctuation := by
  simp only [layoutSuffix, List.mem_cons] at h
  rcases h with rfl | rfl | h
  · exact .inr (by decide)
  · exact .inl (by decide)
  · exact .inl (isAlphanum_of_isDigit (Numeral.isDigit_of_mem_digits h))

lemma mem_chars (h : c ∈ i.chars) : c.isAlphanum = true ∨ c ∈ punctuation := by
  rw [Assembly.Statement.chars_eq] at h
  simp only [List.mem_append, List.mem_cons, List.not_mem_nil, or_false] at h
  rcases h with ((h | h) | rfl | h) | rfl
  · exact .inl (Assembly.Statement.name_chars i c h).1
  · rcases hl : Assembly.Statement.forced? i with _ | l
    · simp [hl, Assembly.Statement.ending] at h
    · rw [hl] at h
      exact isAlphanum_of_mem_layoutSuffix h
  · exact .inr (by decide)
  · rcases Assembly.Statement.mem_listChars h with rfl | rfl | h
    · exact .inr (by decide)
    · exact .inr (by decide)
    · exact .inl (isAlphanum_of_isDigit h)
  · exact .inr (by decide)

lemma not_mem_chars (ha : c.isAlphanum = false) (hp : c ∉ punctuation) : c ∉ i.chars := by
  intro h
  rcases mem_chars h with h | h
  · simp [ha] at h
  · exact hp h

lemma chars_ends (i : Instruction) : ∃ c s, c.isAlphanum = true ∧ i.chars = c :: s ++ [')'] := by
  obtain ⟨c, name, hname⟩ := List.exists_cons_of_ne_nil (Assembly.Statement.nameOf_ne_nil i)
  have hc : c ∈ Assembly.Statement.nameOf i := by simp [hname]
  exact ⟨c, _, (Assembly.Statement.name_chars i c hc).1, by
    rw [Assembly.Statement.chars_eq, hname, List.cons_append, List.cons_append]⟩

end Instruction

namespace Assembly

/-! ### Lines as they are written -/

/-- A line that is read as it stands: nothing to trim from it, no comment, and not empty. -/
def Bare (line : List Char) : Prop := IsLine line ∧ trim isWhite (code line) = line ∧ line ≠ []

lemma code_of_not_mem {line : List Char} (h : '%' ∉ line) : code line = line := by
  rw [code, before, List.takeWhile_eq_self_iff]
  intro c hc
  have hne : c ≠ '%' := fun e => h (e ▸ hc)
  simpa using hne

lemma bare_chars (i : Instruction) : Bare i.chars := by
  obtain ⟨c, s, hc, hchars⟩ := i.chars_ends
  have hfeed : '\n' ∉ i.chars := Instruction.not_mem_chars (by decide) (by decide)
  have hpercent : '%' ∉ i.chars := Instruction.not_mem_chars (by decide) (by decide)
  have htrim : trim isWhite i.chars = i.chars := by
    rw [hchars]
    exact trim_of_ends (isWhite_of_isAlphanum hc) (by decide)
  refine ⟨⟨hfeed, ?_⟩, ?_, ?_⟩
  · rw [hchars, List.getLast?_concat]
    decide
  · rw [code_of_not_mem hpercent, htrim]
  · rw [hchars]
    simp

lemma bare_data : Bare "data".toList := by
  refine ⟨?_, ?_, ?_⟩ <;> decide

lemma isWhite_of_written {c : Char} (h : c ∈ Numeral.written) : isWhite c = false := by
  have hall : Numeral.written.all (fun c => !isWhite c) = true := by decide
  simpa using List.all_eq_true.mp hall c h

lemma bare_dataLine (v : Int32) : Bare (dataLine v).toList := by
  have hwritten := written_of_dataLine v
  have hpercent : '%' ∉ (dataLine v).toList := fun h => absurd (hwritten _ h) (by decide)
  refine ⟨isLine_of_written hwritten, ?_, ?_⟩
  · rw [code_of_not_mem hpercent, trim_of_none fun c hc => isWhite_of_written (hwritten c hc)]
  · intro hnil
    have hread := Numeral.read?_decimal v.toInt
    rw [dataLine, String.toList_ofList] at hnil
    have hempty : Numeral.read? [] = none := by decide
    simp [hnil, hempty] at hread

lemma isDataMarker_chars (i : Instruction) : isDataMarker i.chars = false := by
  obtain ⟨c, s, -, hchars⟩ := i.chars_ends
  rw [isDataMarker, beq_eq_false_iff_ne, hchars]
  intro h
  have hlast := congrArg List.getLast? h
  rw [List.map_append, List.map_singleton, List.getLast?_concat] at hlast
  exact absurd hlast (by decide)

lemma number?_dataLine (v : Int32) : number? (dataLine v).toList = some v :=
  Cell.dataWord?_ofWord v

/-! ### Sources -/

/-- The source that has the given lines, the last of them ended or not. -/
def source (lines : List String) (ended : Bool) : String :=
  String.ofList <|
    if ended then unlines (lines.map String.toList) else joinWith ['\n'] (lines.map String.toList)

def Program.listing (p : Program) : List String :=
  p.instructions.map Instruction.text ++
    match p.data with
    | none => []
    | some vs => "data" :: vs.map dataLine

variable {ls : List String} {is : List Instruction} {p : Program}

lemma lines_source (ended : Bool) (h : ∀ l ∈ ls, Bare l.toList) :
    lines (source ls ended).toList = ls.map String.toList := by
  have hline : ∀ l ∈ ls.map String.toList, IsLine l := by
    simpa using fun l hl => (h l hl).1
  have hne : ∀ l ∈ ls.map String.toList, l ≠ [] := by
    simpa using fun l hl => (h l hl).2.2
  rw [source, String.toList_ofList]
  cases ended with
  | true => exact lines_unlines hline
  | false => exact lines_joinWith hline hne

lemma texts_of_bare (h : ∀ l ∈ ls, Bare l.toList) :
    texts (ls.map String.toList) = ls.map String.toList := by
  induction ls with
  | nil => rfl
  | cons l ls ih =>
    obtain ⟨-, htrim, hne⟩ := h l (by simp)
    rw [List.map_cons, texts_cons, htrim, if_neg hne, ih fun l' hl' => h l' (by simp [hl'])]

lemma bare_of_mem_listing : ∀ l ∈ p.listing, Bare l.toList := by
  intro l hl
  obtain ⟨is, data⟩ := p
  rcases List.mem_append.mp hl with hl | hl
  · obtain ⟨i, -, rfl⟩ := List.mem_map.mp hl
    rw [Instruction.text, String.toList_ofList]
    exact bare_chars i
  · rcases data with _ | vs
    · simp at hl
    · rcases List.mem_cons.mp hl with rfl | hl
      · exact bare_data
      · obtain ⟨v, -, rfl⟩ := List.mem_map.mp hl
        exact bare_dataLine v

lemma map_toList_text (is : List Instruction) :
    (is.map Instruction.text).map String.toList = is.map Instruction.chars := by
  rw [List.map_map]
  exact List.map_congr_left fun i _ => String.toList_ofList

lemma statements_chars (is : List Instruction) (rest : List (List Char)) :
    statements (is.map Instruction.chars ++ rest) = is.map Instruction.chars ++ statements rest ∧
      numbers? (is.map Instruction.chars ++ rest) = numbers? rest :=
  statements_append (by simpa using fun i _ => isDataMarker_chars i) rest

lemma forall₂_means_chars (h : ∀ i ∈ is, i.Fits) :
    List.Forall₂ Means (is.map Instruction.chars) is := by
  rw [List.forall₂_map_left_iff, List.forall₂_same]
  exact fun i hi => means_chars (h i hi)

lemma forall₂_number?_dataLine (vs : List Int32) :
    List.Forall₂ (fun t v => number? t = some v) ((vs.map dataLine).map String.toList) vs := by
  rw [List.map_map, List.forall₂_map_left_iff, List.forall₂_same]
  exact fun v _ => number?_dataLine v

/-- **A program assembles from its listing.** -/
theorem program_listing (ended : Bool) (h : ∀ i ∈ p.instructions, i.Fits) :
    program (source p.listing ended) = .ok p := by
  rw [program, lines_source ended bare_of_mem_listing, programFrom_eq_ok_iff,
    texts_of_bare bare_of_mem_listing]
  obtain ⟨is, data⟩ := p
  rcases data with _ | vs
  · obtain ⟨hs, hn⟩ := statements_chars is []
    rw [Program.listing, List.append_nil, map_toList_text]
    rw [List.append_nil] at hs hn
    rw [hs, hn]
    exact ⟨by simpa [statements] using forall₂_means_chars h, .none⟩
  · obtain ⟨hs, hn⟩ := statements_chars is ("data".toList :: (vs.map dataLine).map String.toList)
    have hmark : isDataMarker "data".toList = true := by decide
    rw [Program.listing, List.map_append, map_toList_text, List.map_cons, hs, hn, statements_cons,
      numbers?_cons, hmark]
    refine ⟨?_, ?_⟩
    · simpa using forall₂_means_chars h
    · exact .some (forall₂_number?_dataLine vs)

/-- **Inversion of a source without data.** -/
theorem instructions_eq_ok_iff {n : ℕ} {ls : List (List Char)} :
    instructions n ls = .ok is ↔
      List.Forall₂ Means ((ls.map code).filter (!isVoid ·)) is := by
  induction ls generalizing n is with
  | nil => cases is <;> simp [instructions]
  | cons line rest ih =>
    by_cases hvoid : isVoid (code line) = true
    · simp [instructions, hvoid, ih]
    · simp only [instructions, hvoid, Bool.false_eq_true, if_false, List.map_cons, Bool.not_false,
        List.filter_cons_of_pos, List.forall₂_cons_left_iff, Means]
      rcases hi : instruction (code line) with d | i
      · simp
      · simp only [map_eq_ok, ih, Except.ok.injEq]
        grind

/-- **Statements parse from their listing.** -/
theorem parse_listing (ended : Bool) (h : ∀ i ∈ is, i.Fits) :
    parse (source (is.map Instruction.text) ended) = .ok is := by
  have hbare : ∀ l ∈ is.map Instruction.text, Bare l.toList := by
    simpa [Instruction.text] using fun i _ => bare_chars i
  have hcode : ∀ s ∈ is.map Instruction.chars, code s = s ∧ (!isVoid s) = true := by
    intro s hs
    obtain ⟨i, -, rfl⟩ := List.mem_map.mp hs
    obtain ⟨c, t, -, hchars⟩ := i.chars_ends
    have hpercent : '%' ∉ i.chars := Instruction.not_mem_chars (by decide) (by decide)
    obtain ⟨-, htrim, hne⟩ := bare_chars i
    rw [code_of_not_mem hpercent] at htrim
    exact ⟨code_of_not_mem hpercent, by simpa [isVoid, htrim] using hne⟩
  have hmap : (is.map Instruction.chars).map code = is.map Instruction.chars :=
    (List.map_congr_left fun s hs => (hcode s hs).1).trans (List.map_id' _)
  rw [parse, lines_source ended hbare, instructions_eq_ok_iff, map_toList_text, hmap,
    List.filter_eq_self.mpr fun s hs => (hcode s hs).2]
  exact forall₂_means_chars h

end Assembly

open Assembly Instruction

/-- **Disassembled programs reassemble.** Whatever the words are, the lines that show them decoded
parse to the decoded instructions and assemble to the words, up to the bits that decoding passes
over; and with a data section behind them they assemble to the program file of those words and
data. It does not matter whether the last line is ended. -/
theorem disassembly_reassembles (ws : List UInt32) (ds : Option (List Int32)) (ended : Bool) :
    let listing := ws.map fun w => (decode w).text
    let dataSection := ds.elim [] fun vs => "data" :: vs.map dataLine
    let fileSection := ds.elim [] fun vs => "// DATA" :: vs.map dataLine
    parse (source listing ended) = .ok (ws.map decode) ∧
      assemble (source listing ended) = .ok (ws.map significant) ∧
      image (source (listing ++ dataSection) ended) =
        .ok (ws.map (fun w => String.ofList (Numeral.hexadecimalWord (significant w))) ++
          fileSection) := by
  intro listing dataSection fileSection
  have hfits : ∀ i ∈ ws.map decode, i.Fits := by
    simpa using fun w _ => fits_decode w
  have hlisting : listing = (ws.map decode).map Instruction.text := by
    rw [List.map_map]
    rfl
  have hparse : parse (source listing ended) = .ok (ws.map decode) := by
    rw [hlisting]
    exact parse_listing ended hfits
  refine ⟨hparse, ?_, ?_⟩
  · simp only [assemble, hparse, Except.map, List.map_map, Except.ok.injEq]
    exact List.map_congr_left fun w _ => encode_decode w
  · have hsource : listing ++ dataSection = (Program.mk (ws.map decode) ds).listing := by
      rw [hlisting]
      cases ds <;> rfl
    have hlines : (Program.mk (ws.map decode) ds).lines =
        ws.map (fun w => String.ofList (Numeral.hexadecimalWord (significant w))) ++
          fileSection := by
      have hcode : (ws.map decode).map instructionLine =
          ws.map fun w => String.ofList (Numeral.hexadecimalWord (significant w)) := by
        simp [instructionLine, encode_decode]
      rw [Program.lines, hcode]
      cases ds <;> rfl
    rw [image, hsource, program_listing ended hfits, ← hlines]
    rfl

end CellMachine
