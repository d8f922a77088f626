import CellMachine.Proofs.Disassembly
import CellMachine.Proofs.Grammar

/-!
Two readings of one source. A source without data can be read as instructions, each line as it
stands, or as a program, each line without the white space around it. As it stands a statement may
have spaces and tabs around it but no other white space, so the readings agree, in words and in
errors, up to the first line on which other white space stands beside a statement.
-/

namespace CellMachine

open Text

/-! ### Characters at the ends of statements -/

lemma isWhite_of_isInlineBlank {c : Char} (h : isInlineBlank c = true) : isWhite c = true := by
  by_contra hw
  simp [isInlineBlank_of_isWhite (Bool.eq_false_iff.mpr hw)] at h

namespace Assembly

/-! ### What encloses a statement -/

namespace Statement

variable {s rest : List Char} {st : Statement}

def Ends (s : List Char) : Prop := ∀ c ∈ s.getLast?, isWhite c = false

lemma Ends.append {t : List Char} (hs : Ends s) (ht : Ends t) : Ends (s ++ t) := by
  intro c hc
  rw [List.getLast?_append] at hc
  rcases hlast : t.getLast? with _ | d
  · exact hs c (by simpa [hlast] using hc)
  · exact ht c (by simpa [hlast] using hc)

lemma ends_of_forall (h : ∀ c ∈ s, isWhite c = false) : Ends s := fun c hc =>
  h c (List.mem_of_getLast? hc)

lemma suffix?_ends {n : Option ℕ} (h : suffix? s = some (n, rest)) :
    ∃ front, s = front ++ rest ∧ Ends front := by
  obtain ⟨⟨front, hs, hsuffixed⟩, -⟩ := suffixed_of_suffix? h
  have hnone : ∀ c ∈ ([] : List Char), c.isAlphanum = true := by simp
  exact ⟨front, hs, fun c hc => isWhite_of_isAlphanum (getLast?_of_suffixed hnone hsuffixed c hc)⟩

lemma arguments?_ends {vs : Option (List UInt32)} (h : arguments? s = some vs) : Ends s := by
  cases arguments?_eq_some_iff.mp h with
  | absent => simp [Ends]
  | @present t us inside =>
    have hlast : ('(' :: (t ++ [')'])).getLast? = some ')' := by
      rw [← List.cons_append, List.getLast?_concat]
    rw [Ends, hlast]
    simp [isWhite]

/-- **Around a statement there are only spaces and tabs.** -/
theorem trim_isWhite_of_read? (h : read? s = some st) : trim isWhite s = trim isInlineBlank s := by
  unfold read? at h
  rw [← trim_trim fun _ => isWhite_of_isInlineBlank]
  have hlast : ∀ c ∈ (trim isInlineBlank s).getLast?, isInlineBlank c = false := getLast?_trim
  generalize trim isInlineBlank s = t at h hlast ⊢
  simp only at h
  split at h
  · simp at h
  next hname =>
  obtain ⟨⟨suffix, rest⟩, hsuffix, h⟩ := Option.bind_eq_some_iff.mp h
  obtain ⟨arguments, harguments, -⟩ := Option.map_eq_some_iff.mp h
  obtain ⟨front, hfront, hends⟩ := suffix?_ends hsuffix
  have hsplit : t = t.takeWhile isNameChar ++ front ++ rest := by
    rw [List.append_assoc, ← hfront]
    exact List.takeWhile_append_dropWhile.symm
  apply trim_eq_self
  · intro c hc
    rw [hsplit, List.append_assoc, List.head?_append_of_ne_nil _ hname] at hc
    exact isWhite_of_isAlphanum (List.mem_takeWhile_imp (List.mem_of_head? hc))
  · have hrest : Ends rest := by
      intro c hc
      have hblank : ∀ d ∈ rest.getLast?, isInlineBlank d = false := by
        intro d hd
        refine hlast d ?_
        rw [hsplit, List.getLast?_append, Option.mem_def.mp hd]
        rfl
      rw [← getLast?_trimLeft hblank] at hc
      exact arguments?_ends harguments c hc
    rw [hsplit]
    refine Ends.append (Ends.append (ends_of_forall fun c hc => ?_) hends) hrest
    exact isWhite_of_isAlphanum (List.mem_takeWhile_imp hc)

end Statement

/-! ### Lines -/

/-- What there is to read on a line, without the white space around it. -/
def textOf (line : List Char) : List Char := trim isWhite (code line)

/-- There is no white space around the statement on the line but spaces and tabs. -/
def Tidy (line : List Char) : Prop := textOf line = trim isInlineBlank (code line)

/-- A statement stands on the line, and other white space than spaces and tabs beside it. -/
def Hides (line : List Char) : Prop :=
  ¬ Tidy line ∧ (Statement.read? (textOf line)).isSome = true

variable {line : List Char}

instance : Decidable (Tidy line) := inferInstanceAs (Decidable (_ = _))

instance : Decidable (Hides line) := inferInstanceAs (Decidable (_ ∧ _))

lemma instruction_of_tidy (h : Tidy line) : instruction (textOf line) = instruction (code line) := by
  have hread : Statement.read? (textOf line) = Statement.read? (code line) := by
    rw [h, Statement.read?, trim_trim fun _ => id, Statement.read?]
  rw [instruction, instruction, hread, textOf, trim_trim fun _ => id]

lemma instruction_of_not_tidy (h : ¬ Tidy line) :
    instruction (code line) = .error (.unreadable (String.ofList (textOf line))) := by
  have hread : Statement.read? (code line) = none := by
    by_contra hsome
    obtain ⟨st, hst⟩ := Option.ne_none_iff_exists'.mp hsome
    exact h (Statement.trim_isWhite_of_read? hst)
  rw [instruction, hread, textOf]

/-- With and without the white space around it a line is read alike, unless it hides a statement. -/
lemma instruction_eq_of_not_hides (h : ¬ Hides line) :
    instruction (textOf line) = instruction (code line) := by
  by_cases htidy : Tidy line
  · exact instruction_of_tidy htidy
  · have hread : Statement.read? (textOf line) = none := by
      simpa [Hides, htidy] using h
    rw [instruction_of_not_tidy htidy, instruction, hread, textOf, trim_trim fun _ => id]

/-! ### Sources -/

def Dataless (source : String) : Prop :=
  ∀ line ∈ lines source.toList, isDataMarker (textOf line) = false

instance (source : String) : Decidable (Dataless source) := List.decidableBAll _ _

/-- The first line that hides a statement stops the reading of lines as they stand, if none before
it has stopped both readings. -/
lemma programFrom_eq_or {ls : List (List Char)}
    (h : ∀ line ∈ ls, isDataMarker (textOf line) = false) (n : ℕ) :
    programFrom n ls = (instructions n ls).map (⟨·, none⟩) ∨
      ∃ k line, ls[k]? = some line ∧ Hides line ∧
        instructions n ls = .error ⟨n + k, .unreadable (String.ofList (textOf line))⟩ := by
  induction ls generalizing n with
  | nil => exact .inl rfl
  | cons line rest ih =>
    have hmark : isDataMarker (trim isWhite (code line)) = false := h line (by simp)
    have ih := ih (fun l hl => h l (by simp [hl])) (n + 1)
    by_cases hvoid : trim isWhite (code line) = []
    · simp only [programFrom, instructions, isVoid, hvoid, if_true, BEq.rfl]
      refine ih.imp_right ?_
      rintro ⟨k, l, hk, hl, herror⟩
      exact ⟨k + 1, l, hk, hl, by rw [herror]; congr 2; omega⟩
    · simp only [programFrom, instructions, isVoid, hvoid, hmark, beq_iff_eq, Bool.false_eq_true,
        if_false]
      by_cases hhides : Hides line
      · rw [instruction_of_not_tidy hhides.1]
        exact .inr ⟨0, line, rfl, hhides, rfl⟩
      · rw [← instruction_eq_of_not_hides hhides, textOf]
        rcases instruction (trim isWhite (code line)) with d | i
        · exact .inl rfl
        · rcases ih with heq | ⟨k, l, hk, hl, herror⟩
          · left
            simp only [heq]
            cases instructions (n + 1) rest <;> rfl
          · right
            refine ⟨k + 1, l, hk, hl, ?_⟩
            simp only [herror, Except.map]
            congr 2
            omega

end Assembly

open Assembly

/-- **Two readings of a source without data agree, unless a line hides a statement.** The lines of
the program file are then the instruction words as they are written, in order, and an error is the
same error on the same line. A line that hides a statement is unreadable as it stands. -/
theorem readings_agree_unless_hidden (source : String) (h : Dataless source) :
    image source =
        (assemble source).map (·.map fun w => String.ofList (Numeral.hexadecimalWord w)) ∨
      ∃ k line, (lines source.toList)[k]? = some line ∧ Hides line ∧
        assemble source = .error ⟨k + 1, .unreadable (String.ofList (textOf line))⟩ := by
  rcases programFrom_eq_or h 1 with heq | ⟨k, line, hk, hhides, herror⟩
  · left
    rw [image, program, heq, assemble, parse]
    cases instructions 1 (lines source.toList) with
    | error d => rfl
    | ok is => simp [Except.map, Program.lines, instructionLine]
  · right
    refine ⟨k, line, hk, hhides, ?_⟩
    rw [assemble, parse, herror, Nat.add_comm]
    rfl

theorem readings_agree_unless_hidden_return :
    Dataless "JMP(2)\n\tHLT\r" ∧
      ∃ k line, (lines "JMP(2)\n\tHLT\r".toList)[k]? = some line ∧ Hides line ∧
        assemble "JMP(2)\n\tHLT\r" =
          .error ⟨k + 1, .unreadable (String.ofList (textOf line))⟩ := by
  have hdata : Dataless "JMP(2)\n\tHLT\r" := by decide +kernel
  refine ⟨hdata, (readings_agree_unless_hidden _ hdata).resolve_left ?_⟩
  decide +kernel

/-- A carriage return that no line feed follows belongs to its line, and hides a statement. -/
theorem readings_differ :
    ¬ ∀ source : String, Dataless source → image source =
      (assemble source).map (·.map fun w => String.ofList (Numeral.hexadecimalWord w)) := by
  intro h
  have hdata : Dataless "HLT\r" := by decide +kernel
  have hprogram : image "HLT\r" = .ok ["0x92000000"] := by decide +kernel
  have hwords : assemble "HLT\r" = .error ⟨1, .unreadable "HLT"⟩ := by decide +kernel
  have heq := h _ hdata
  rw [hprogram, hwords] at heq
  cases heq

end CellMachine
