import CellMachine.Assembly.Program
import CellMachine.Proofs.Texts

/-!
Sources one after another. The lines of a text and a line feed and another text are the lines of the
first, the last of them ended too, and those of the second. So a source is read in parts: an error
of the first part is the error of the whole, an error of the second part stands as many lines
further down as the first part has, and otherwise the instructions follow each other. Lines without
a statement count as lines and yield nothing.
-/

namespace CellMachine

namespace Text

/-- A text is what follows its last line feed, behind the lines before it. -/
lemma exists_last (s : List Char) :
    ∃ front last, endedLines s = front ++ [dropReturn last] ∧
      lines s = front ++ (if last = [] then [] else [last]) ∧
      (last ≠ [] → last.getLast? = s.getLast?) := by
  by_cases hs : '\n' ∈ s
  · obtain ⟨a, b, hsplit, hlast⟩ := List.eq_append_cons_of_mem (List.mem_reverse.mpr hs)
    have hparts : s = b.reverse ++ '\n' :: a.reverse := by
      rw [← List.reverse_reverse s, hsplit]
      simp
    have hcut : splitOn '\n' a.reverse = [a.reverse] :=
      splitOn_of_not_mem fun hmem => hlast (List.mem_reverse.mp hmem)
    have hended : endedLines a.reverse = [dropReturn a.reverse] := by
      rw [endedLines, hcut, List.map_singleton]
    refine ⟨endedLines b.reverse, a.reverse, ?_, ?_, fun hne => ?_⟩
    · rw [hparts, endedLines_append_cons, hended]
    · rw [hparts, lines_append_cons, lines, hcut]
      simp [closeLines]
    · rw [hparts, List.getLast?_append_of_ne_nil _ (List.cons_ne_nil _ _)]
      obtain ⟨c, t, ht⟩ := List.exists_cons_of_ne_nil hne
      rw [ht, List.getLast?_cons_cons]
  · have hcut := splitOn_of_not_mem hs
    refine ⟨[], s, ?_, ?_, fun _ => rfl⟩
    · rw [endedLines, hcut, List.map_singleton, List.nil_append]
    · rw [lines, hcut]
      simp [closeLines]

end Text

namespace Assembly

open Text

variable {n : ℕ} {line : List Char} {ls rest : List (List Char)} {d : Diagnostic}

/-! ### Lines without a statement -/

lemma isVoid_iff {s : List Char} : isVoid s = true ↔ ∀ c ∈ s, isWhite c = true := by
  rw [isVoid, beq_iff_eq]
  constructor
  · intro hnil c hc
    by_contra hwhite
    exact trim_ne_nil hc (Bool.eq_false_iff.mpr hwhite) hnil
  · intro hall
    have htrim := trim_append (s := []) hall (by simp : ∀ c ∈ [], isWhite c = true)
    simpa using htrim

/-- There is no statement to read on the line: it is blank, or a comment. -/
def Silent (line : List Char) : Prop := isVoid (code line) = true

instance : Decidable (Silent line) := inferInstanceAs (Decidable (_ = _))

lemma Silent.dropReturn (h : Silent line) : Silent (dropReturn line) := by
  unfold Text.dropReturn
  split
  · next hlast =>
    obtain ⟨front, rfl⟩ := List.getLast?_eq_some_iff.mp hlast
    rw [List.dropLast_concat]
    refine isVoid_iff.mpr fun c hc => isVoid_iff.mp h c ?_
    rw [code, Text.before, List.takeWhile_append]
    split
    · exact List.mem_append_left _ ((List.takeWhile_subset _) hc)
    · exact hc
  · exact h

lemma instructions_silent (h : ∀ l ∈ ls, Silent l) (n : ℕ) : instructions n ls = .ok [] := by
  induction ls generalizing n with
  | nil => rfl
  | cons line rest ih =>
    obtain ⟨hline, hrest⟩ := List.forall_mem_cons.mp h
    have hvoid : isVoid (code line) = true := hline
    rw [instructions, if_pos hvoid, ih hrest]

lemma silent_endedLines {s : List Char} (h : ∀ l ∈ lines s, Silent l) :
    ∀ l ∈ endedLines s, Silent l := by
  obtain ⟨front, last, hended, hlines, -⟩ := exists_last s
  rw [hlines] at h
  rw [hended]
  intro l hl
  rcases List.mem_append.mp hl with hl | hl
  · exact h l (List.mem_append_left _ hl)
  · rw [List.mem_singleton.mp hl]
    by_cases hlast : last = []
    · rw [hlast]
      rfl
    · exact (h last (by simp [hlast])).dropReturn

/-! ### Reading in parts -/

/-- What two parts of a source amount to together, the second of which stands `k` lines further down
than when it is read by itself. -/
def joined (k : ℕ) (first second : Except Diagnostic (List Instruction)) :
    Except Diagnostic (List Instruction) :=
  match first, second with
  | .error d, _ => .error d
  | .ok _, .error d => .error (d.shift k)
  | .ok is, .ok js => .ok (is ++ js)

variable {x y : Except Diagnostic (List Instruction)}

lemma joined_joined (k l : ℕ) : joined k x (joined l (.ok []) y) = joined (k + l) x y := by
  rcases x with d | is
  · rfl
  · rcases y with d | js
    · simp only [joined, Diagnostic.shift, Except.error.injEq, Diagnostic.mk.injEq, and_true]
      omega
    · rfl

lemma joined_map (k : ℕ) (i : Instruction) :
    (joined k x y).map (i :: ·) = joined k (x.map (i :: ·)) y := by
  rcases x with d | is
  · rfl
  · rcases y with d | js <;> rfl

/-- Lines further down yield the same instructions, and the same errors further down. -/
lemma instructions_add (n k : ℕ) (ls : List (List Char)) :
    instructions (n + k) ls = joined k (.ok []) (instructions n ls) := by
  induction ls generalizing n with
  | nil => rfl
  | cons line rest ih =>
    have hnext : n + k + 1 = n + 1 + k := by omega
    simp only [instructions, hnext, ih]
    split
    · rfl
    · rcases instruction (code line) with d | i
      · rfl
      · cases instructions (n + 1) rest <;> rfl

/-- **Lines are read in parts.** -/
theorem instructions_append (n : ℕ) (ls ls' : List (List Char)) :
    instructions n (ls ++ ls') = joined ls.length (instructions n ls) (instructions n ls') := by
  induction ls generalizing n with
  | nil => exact instructions_add n 0 ls'
  | cons line rest ih =>
    simp only [List.cons_append, instructions, ih, instructions_add n 1 ls', joined_joined,
      List.length_cons]
    split
    · rfl
    · rcases instruction (code line) with d | i
      · rfl
      · exact joined_map _ i

/-- It does not matter whether the last line is ended, unless it ends in a carriage return, which
then goes with the line feed. -/
lemma instructions_endedLines {s : List Char} (h : s.getLast? ≠ some '\r') (n : ℕ) :
    instructions n (endedLines s) = instructions n (lines s) := by
  obtain ⟨front, last, hended, hlines, hend⟩ := exists_last s
  rw [hended, hlines]
  by_cases hlast : last = []
  · have hempty : instructions n [dropReturn []] = .ok [] := rfl
    rw [if_pos hlast, List.append_nil, hlast, instructions_append, hempty]
    rcases instructions n front with d | is
    · rfl
    · simp [joined]
  · have hkeep : dropReturn last = last := by
      rw [dropReturn, if_neg]
      rwa [hend hlast]
    rw [if_neg hlast, hkeep]

/-- **A source is read in parts.** -/
theorem parse_append {a : String} (h : a.toList.getLast? ≠ some '\r') (b : String) :
    parse (a ++ "\n" ++ b) = joined (1 + a.toList.count '\n') (parse a) (parse b) := by
  have hchars : (a ++ "\n" ++ b).toList = a.toList ++ '\n' :: b.toList := by simp
  rw [parse, hchars, lines_append_cons, instructions_append, length_endedLines,
    instructions_endedLines h, parse, parse]

/-- **Silent lines only count as lines.** -/
theorem parse_silent_append {v : String} (h : ∀ l ∈ lines v.toList, Silent l) (b : String) :
    parse (v ++ "\n" ++ b) = joined (1 + v.toList.count '\n') (.ok []) (parse b) := by
  have hchars : (v ++ "\n" ++ b).toList = v.toList ++ '\n' :: b.toList := by simp
  rw [parse, hchars, lines_append_cons, instructions_append, length_endedLines,
    instructions_silent (silent_endedLines h), parse]

/-! ### The first error -/

/-- The line says something that is no statement, with this defect. -/
def Spoils (line : List Char) (d : Defect) : Prop :=
  ¬ Silent line ∧ instruction (code line) = .error d

lemma instructions_of_spoils {e : Defect} (h : Spoils line e) (n : ℕ) (rest : List (List Char)) :
    instructions n (line :: rest) = .error ⟨n, e⟩ := by
  have hvoid : ¬ isVoid (code line) = true := h.1
  rw [instructions, if_neg hvoid, h.2]

lemma instructions_of_not_spoils (h : ∀ e, ¬ Spoils line e) :
    instructions n (line :: rest) = .error d ↔ instructions (n + 1) rest = .error d := by
  by_cases hvoid : isVoid (code line) = true
  · rw [instructions, if_pos hvoid]
  · rcases hi : instruction (code line) with e | i
    · exact absurd ⟨hvoid, hi⟩ (h e)
    · rw [instructions, if_neg hvoid, hi]
      rcases instructions (n + 1) rest with e | is
      · rfl
      · simp [Except.map]

/-- **An error is that of the first line that is no statement.** -/
theorem instructions_eq_error_iff :
    instructions n ls = .error d ↔
      ∃ before line after, ls = before ++ line :: after ∧ (∀ l ∈ before, ∀ e, ¬ Spoils l e) ∧
        Spoils line d.defect ∧ d.line = n + before.length := by
  induction ls generalizing n with
  | nil => simp [instructions]
  | cons line rest ih =>
    by_cases hline : ∃ e, Spoils line e
    · obtain ⟨e, he⟩ := hline
      rw [instructions_of_spoils he]
      constructor
      · rintro ⟨⟩
        exact ⟨[], line, rest, rfl, by simp, he, rfl⟩
      · rintro ⟨_ | ⟨first, before⟩, l, after, hsplit, hbefore, hl, hnumber⟩
        · obtain ⟨rfl, -⟩ := List.cons.inj hsplit
          obtain rfl : e = d.defect := Except.error.inj (he.2.symm.trans hl.2)
          rw [← show d.line = n from hnumber]
        · obtain ⟨rfl, -⟩ := List.cons.inj hsplit
          exact absurd he (hbefore line (by simp) e)
    · have hfine : ∀ e, ¬ Spoils line e := fun e he => hline ⟨e, he⟩
      rw [instructions_of_not_spoils hfine, ih]
      constructor
      · rintro ⟨before, l, after, rfl, hbefore, hl, hnumber⟩
        refine ⟨line :: before, l, after, rfl, ?_, hl, ?_⟩
        · exact List.forall_mem_cons.mpr ⟨hfine, hbefore⟩
        · rw [hnumber, List.length_cons]
          omega
      · rintro ⟨_ | ⟨first, before⟩, l, after, hsplit, hbefore, hl, hnumber⟩
        · obtain ⟨rfl, -⟩ := List.cons.inj hsplit
          exact absurd hl (hfine _)
        · obtain ⟨rfl, rfl⟩ := List.cons.inj hsplit
          refine ⟨before, l, after, rfl, (List.forall_mem_cons.mp hbefore).2, hl, ?_⟩
          rw [hnumber, List.length_cons]
          omega

lemma not_spoils_iff :
    (∀ e, ¬ Spoils line e) ↔ Silent line ∨ ∃ i, instruction (code line) = .ok i := by
  rcases hi : instruction (code line) with e | i
  · simp [Spoils, hi]
  · simp [Spoils, hi]

end Assembly

open Assembly

/-- **Assembly reads a source in parts and reports the first bad line.** Let the first of two texts
not end in a carriage return, which a line feed would take along. The text of both, with a line feed
between them, has the error of the first; or else the error of the second, as many lines further
down as the first text has; or else the instructions of the first and then those of the second.
Lines that are blank or only comments put what follows them further down and change nothing else.
An error names the first line that says something and is no statement, and its defect. -/
theorem assembly_compositional :
    (∀ a b : String, a.toList.getLast? ≠ some '\r' →
      parse (a ++ "\n" ++ b) = joined (1 + a.toList.count '\n') (parse a) (parse b)) ∧
    (∀ v b : String, (∀ line ∈ Text.lines v.toList, Silent line) →
      parse (v ++ "\n" ++ b) = joined (1 + v.toList.count '\n') (.ok []) (parse b)) ∧
    (∀ a v b : String, a.toList.getLast? ≠ some '\r' →
      (∀ line ∈ Text.lines v.toList, Silent line) →
      parse (a ++ "\n" ++ v ++ "\n" ++ b) =
        joined (1 + a.toList.count '\n' + (1 + v.toList.count '\n')) (parse a) (parse b)) ∧
    ∀ (s : String) (d : Diagnostic), parse s = .error d ↔
      ∃ before line after, Text.lines s.toList = before ++ line :: after ∧
        (∀ l ∈ before, Silent l ∨ ∃ i, instruction (code l) = .ok i) ∧
        ¬ Silent line ∧ instruction (code line) = .error d.defect ∧
        d.line = before.length + 1 := by
  refine ⟨fun a b ha => parse_append ha b, fun v b hv => parse_silent_append hv b,
    fun a v b ha hv => ?_, fun s d => ?_⟩
  · have hassoc : a ++ "\n" ++ v ++ "\n" ++ b = a ++ "\n" ++ (v ++ "\n" ++ b) := by
      simp only [String.append_assoc]
    rw [hassoc, parse_append ha, parse_silent_append hv, joined_joined]
  · simp only [parse, instructions_eq_error_iff, not_spoils_iff]
    simp only [Spoils, and_assoc, Nat.add_comm 1]

/-- A source in two parts with comments between them, and an error in the second part. The comments
end in a carriage return, the first part has one inside. -/
theorem assembly_compositional_comments :
    let a := "HLT\r\n  JMP(7) % away"
    let v := "% from here on\n\t% nothing works\r"
    let b := "NOP\n\nBOGUS(1)\nHLT("
    a.toList.getLast? ≠ some '\r' ∧ (∀ line ∈ Text.lines v.toList, Silent line) ∧
      parse (a ++ "\n" ++ b) = joined 2 (parse a) (parse b) ∧
      parse (v ++ "\n" ++ b) = joined 2 (.ok []) (parse b) ∧
      parse (a ++ "\n" ++ v ++ "\n" ++ b) = joined 4 (parse a) (parse b) ∧
      joined 4 (parse a) (parse b) = .error ⟨7, .notAnOperation "BOGUS"⟩ := by
  intro a v b
  have ha : a.toList.getLast? ≠ some '\r' := by decide +kernel
  have hv : ∀ line ∈ Text.lines v.toList, Silent line := by decide +kernel
  obtain ⟨append, silent, inserted, -⟩ := assembly_compositional
  have happend := append a b ha
  have hsilent := silent v b hv
  have hinserted := inserted a v b ha hv
  rw [show a.toList.count '\n' = 1 by decide +kernel] at happend hinserted
  rw [show v.toList.count '\n' = 1 by decide +kernel] at hsilent hinserted
  exact ⟨ha, hv, happend, hsilent, hinserted, by decide +kernel⟩

end CellMachine
