import Mathlib.Data.List.DropRight
import Mathlib.Data.List.TakeWhile
import Mathlib.Tactic
import CellMachine.Text.Lines
import CellMachine.Text.Blank

/-!
Trimming and cutting. A text is trimmed of nothing if its ends are no blanks; pieces that are joined
come apart at their separators; lines read back, whether or not the last of them is ended.
-/

namespace CellMachine.Text

/-! ### Trimming -/

section Trimming

variable {p q : Char → Bool} {s : List Char}

lemma trim_eq_self (hhead : ∀ c ∈ s.head?, p c = false) (hlast : ∀ c ∈ s.getLast?, p c = false) :
    trim p s = s := by
  have hdrop : ∀ t : List Char, (∀ c ∈ t.head?, p c = false) → t.dropWhile p = t := by
    intro t ht
    cases t with
    | nil => rfl
    | cons c t => simp [ht c rfl]
  rw [trim, trimRight, trimLeft, hdrop s hhead, hdrop s.reverse (by simpa using hlast),
    List.reverse_reverse]

lemma trim_of_none (h : ∀ c ∈ s, p c = false) : trim p s = s :=
  trim_eq_self (fun c hc => h c (List.mem_of_head? hc)) fun c hc => h c (List.mem_of_getLast? hc)

lemma trim_of_ends {c d : Char} (hc : p c = false) (hd : p d = false) :
    trim p (c :: s ++ [d]) = c :: s ++ [d] := by
  have hlast : (c :: s ++ [d]).getLast? = some d := List.getLast?_concat
  exact trim_eq_self (by simpa using hc) (by simpa only [hlast, Option.mem_some_iff, forall_eq'])

/-- What is trimmed off a text is of the class throughout. -/
lemma exists_trim (p : Char → Bool) (s : List Char) :
    ∃ a b, s = a ++ trim p s ++ b ∧ (∀ c ∈ a, p c = true) ∧ ∀ c ∈ b, p c = true := by
  refine ⟨s.takeWhile p, (trimLeft p s).rtakeWhile p, ?_, ?_, ?_⟩
  · have hright : trim p s ++ (trimLeft p s).rtakeWhile p = trimLeft p s :=
      List.rdropWhile_append_rtakeWhile
    rw [List.append_assoc, hright]
    exact List.takeWhile_append_dropWhile.symm
  · exact fun c hc => List.mem_takeWhile_imp hc
  · exact fun c hc => List.mem_rtakeWhile_imp hc

lemma trim_ne_nil {c : Char} (hs : c ∈ s) (hc : p c = false) : trim p s ≠ [] := by
  intro hnil
  obtain ⟨a, b, hsplit, ha, hb⟩ := exists_trim p s
  rw [hnil, List.append_nil] at hsplit
  rw [hsplit] at hs
  rcases List.mem_append.mp hs with hs | hs
  · simp [ha c hs] at hc
  · simp [hb c hs] at hc

lemma trim_append {a b : List Char} (ha : ∀ c ∈ a, p c = true) (hb : ∀ c ∈ b, p c = true) :
    trim p (a ++ s ++ b) = trim p s := by
  have hright : ∀ t : List Char, trimRight p (t ++ b) = trimRight p t := by
    intro t
    rw [trimRight, List.reverse_append,
      List.dropWhile_append_of_pos fun c hc => hb c (List.mem_reverse.mp hc), trimRight]
  rw [trim, List.append_assoc, trimLeft, List.dropWhile_append_of_pos ha, List.dropWhile_append,
    trim, trimLeft]
  split
  · next h =>
    rw [List.isEmpty_iff.mp h, List.dropWhile_eq_nil_iff.mpr hb]
  · exact hright _

/-- Trimming by a class absorbs trimming by a smaller one. -/
lemma trim_trim (h : ∀ c, p c = true → q c = true) : trim q (trim p s) = trim q s := by
  obtain ⟨a, b, hs, ha, hb⟩ := exists_trim p s
  conv_rhs => rw [hs]
  exact (trim_append (fun c hc => h c (ha c hc)) fun c hc => h c (hb c hc)).symm

lemma getLast?_trim : ∀ c ∈ (trim p s).getLast?, p c = false := by
  intro c hc
  have hhead := List.head?_dropWhile_not p (trimLeft p s).reverse
  rw [trim, trimRight, List.getLast?_reverse] at hc
  rwa [Option.mem_def.mp hc] at hhead

/-- A text and what is left of it when its beginning is trimmed have one end. -/
lemma getLast?_trimLeft (h : ∀ c ∈ s.getLast?, p c = false) :
    (trimLeft p s).getLast? = s.getLast? := by
  rcases ht : trimLeft p s with _ | ⟨d, t⟩
  · cases hs : s.getLast? with
    | none => rfl
    | some c =>
      have hall := List.dropWhile_eq_nil_iff.mp ht c (List.mem_of_getLast? hs)
      simp [h c hs] at hall
  · have hsplit : s = s.takeWhile p ++ d :: t := by
      rw [← ht]
      exact List.takeWhile_append_dropWhile.symm
    rw [hsplit, List.getLast?_append_of_ne_nil _ (List.cons_ne_nil d t)]

end Trimming

/-! ### Cutting and joining -/

section Cutting

variable {sep : Char}

lemma splitOn_of_not_mem {s : List Char} (h : sep ∉ s) : splitOn sep s = [s] := by
  induction s with
  | nil => rfl
  | cons c s ih =>
    have hc : c ≠ sep := fun e => h (e ▸ List.mem_cons_self)
    have hs : sep ∉ s := fun hm => h (List.mem_cons_of_mem _ hm)
    simp [splitOn, hc, ih hs]

lemma splitOn_append_cons (sep : Char) (s t : List Char) :
    splitOn sep (s ++ sep :: t) = splitOn sep s ++ splitOn sep t := by
  induction s with
  | nil => simp [splitOn]
  | cons c s ih =>
    by_cases hc : c = sep
    · simp [splitOn, hc, ih]
    · rcases hs : splitOn sep s with _ | ⟨piece, rest⟩
      · exact absurd hs (splitOn_ne_nil sep s)
      · simp [splitOn, hc, ih, hs]

lemma splitOn_append {s t : List Char} (h : sep ∉ s) :
    splitOn sep (s ++ sep :: t) = s :: splitOn sep t := by
  rw [splitOn_append_cons, splitOn_of_not_mem h, List.singleton_append]

lemma length_splitOn (sep : Char) (s : List Char) : (splitOn sep s).length = 1 + s.count sep := by
  induction s with
  | nil => simp [splitOn]
  | cons c s ih =>
    by_cases hc : c = sep
    · simp [splitOn, hc, ih]
      omega
    · rcases hs : splitOn sep s with _ | ⟨piece, rest⟩
      · exact absurd hs (splitOn_ne_nil sep s)
      · rw [hs] at ih
        simpa [splitOn, hc, hs] using ih

lemma mem_joinWith {c : Char} {gap : List Char} {pieces : List (List Char)}
    (h : c ∈ joinWith gap pieces) : c ∈ gap ∨ ∃ piece ∈ pieces, c ∈ piece := by
  induction pieces with
  | nil => simp [joinWith] at h
  | cons piece rest ih =>
    cases rest with
    | nil => exact .inr ⟨piece, by simp, h⟩
    | cons next rest =>
      simp only [joinWith, List.mem_append] at h
      rcases h with (h | h) | h
      · exact .inr ⟨piece, by simp, h⟩
      · exact .inl h
      · rcases ih h with hgap | ⟨q, hq, hc⟩
        · exact .inl hgap
        · exact .inr ⟨q, by simp [hq], hc⟩

/-- Of pieces that are joined by the separator and a blank, all but the first have the blank. -/
lemma splitOn_joinWith {blank : Char} (hb : blank ≠ sep) {piece : List Char}
    {rest : List (List Char)} (h : ∀ q ∈ piece :: rest, sep ∉ q) :
    splitOn sep (joinWith [sep, blank] (piece :: rest)) = piece :: rest.map (blank :: ·) := by
  -- A piece may have characters before it, for the blank that the previous one leaves.
  have key : ∀ (before piece : List Char), sep ∉ before → (∀ q ∈ piece :: rest, sep ∉ q) →
      splitOn sep (before ++ joinWith [sep, blank] (piece :: rest)) =
        (before ++ piece) :: rest.map (blank :: ·) := by
    clear h
    induction rest with
    | nil =>
      intro before piece hbefore h
      have hpiece : sep ∉ before ++ piece := by
        simpa [hbefore] using h piece (by simp)
      exact splitOn_of_not_mem hpiece
    | cons next rest ih =>
      intro before piece hbefore h
      have hpiece : sep ∉ before ++ piece := by
        simpa [hbefore] using h piece (by simp)
      have hblank : sep ∉ [blank] := by simpa using hb.symm
      have hrest := ih [blank] next hblank fun q hq => h q (List.mem_cons_of_mem _ hq)
      have hshape : before ++ joinWith [sep, blank] (piece :: next :: rest) =
          (before ++ piece) ++ sep :: ([blank] ++ joinWith [sep, blank] (next :: rest)) := by
        simp [joinWith]
      rw [hshape, splitOn_append hpiece, hrest]
      rfl
  exact key [] piece (by simp) h

lemma mem_of_mem_splitOn {s piece : List Char} {c : Char} (hp : piece ∈ splitOn sep s)
    (hc : c ∈ piece) : c ∈ s := by
  induction s generalizing piece with
  | nil =>
    obtain rfl : piece = [] := List.mem_singleton.mp hp
    exact hc
  | cons d s ih =>
    rw [splitOn] at hp
    split at hp
    · rcases List.mem_cons.mp hp with rfl | hp
      · simp at hc
      · exact List.mem_cons_of_mem _ (ih hp hc)
    · split at hp
      · next hs => exact absurd hs (splitOn_ne_nil sep s)
      · next first rest hs =>
        have hrest : ∀ p ∈ first :: rest, c ∈ p → c ∈ s := fun p hp => ih (hs ▸ hp)
        rcases List.mem_cons.mp hp with rfl | hp
        · rcases List.mem_cons.mp hc with rfl | hc
          · exact List.mem_cons_self
          · exact List.mem_cons_of_mem _ (hrest first (by simp) hc)
        · exact List.mem_cons_of_mem _ (hrest piece (by simp [hp]) hc)

end Cutting

/-! ### Lines -/

/-- A line that reads back from a file: no line feed in it, no carriage return at its end. -/
def IsLine (s : List Char) : Prop := '\n' ∉ s ∧ s.getLast? ≠ some '\r'

instance (s : List Char) : Decidable (IsLine s) := inferInstanceAs (Decidable (_ ∧ _))

/-- The lines of a text whose last line is ended as well, however the text itself ends. -/
def endedLines (s : List Char) : List (List Char) := (splitOn '\n' s).map dropReturn

lemma length_endedLines (s : List Char) : (endedLines s).length = 1 + s.count '\n' := by
  rw [endedLines, List.length_map, length_splitOn]

lemma endedLines_of_isLine {s : List Char} (h : IsLine s) : endedLines s = [s] := by
  rw [endedLines, splitOn_of_not_mem h.1, List.map_singleton, dropReturn, if_neg h.2]

lemma closeLines_append {xs ys : List (List Char)} (h : ys ≠ []) :
    closeLines (xs ++ ys) = xs.map dropReturn ++ closeLines ys := by
  induction xs with
  | nil => rfl
  | cons x xs ih =>
    have hne : xs ++ ys ≠ [] := List.append_ne_nil_of_right_ne_nil xs h
    rw [List.cons_append, closeLines, ih, List.map_cons, List.cons_append]
    exact fun hnil => hne hnil

/-- **The lines of two texts with a line feed between them.** -/
theorem lines_append_cons (s t : List Char) : lines (s ++ '\n' :: t) = endedLines s ++ lines t := by
  rw [lines, splitOn_append_cons, closeLines_append (splitOn_ne_nil _ _), lines, endedLines]

lemma endedLines_append_cons (s t : List Char) :
    endedLines (s ++ '\n' :: t) = endedLines s ++ endedLines t := by
  rw [endedLines, splitOn_append_cons, List.map_append, endedLines, endedLines]

lemma lines_append {s t : List Char} (h : IsLine s) : lines (s ++ '\n' :: t) = s :: lines t := by
  rw [lines_append_cons, endedLines_of_isLine h, List.singleton_append]

/-- **Lines that are each ended read back.** -/
theorem lines_unlines {ls : List (List Char)} (h : ∀ l ∈ ls, IsLine l) :
    lines (unlines ls) = ls := by
  induction ls with
  | nil => rfl
  | cons l ls ih =>
    rw [unlines_cons, lines_append (h l (by simp)), ih fun s hs => h s (by simp [hs])]

/-- **Lines read back if the last of them is not ended**, unless that is empty. -/
theorem lines_joinWith {ls : List (List Char)} (h : ∀ l ∈ ls, IsLine l) (hne : ∀ l ∈ ls, l ≠ []) :
    lines (joinWith ['\n'] ls) = ls := by
  induction ls with
  | nil => rfl
  | cons l ls ih =>
    have hl := h l (by simp)
    cases ls with
    | nil =>
      have hcut : splitOn '\n' l = [l] := splitOn_of_not_mem hl.1
      simp [joinWith, lines, hcut, closeLines, hne l (by simp)]
    | cons next rest =>
      have hshape : joinWith ['\n'] (l :: next :: rest) =
          l ++ '\n' :: joinWith ['\n'] (next :: rest) := by
        simp [joinWith]
      rw [hshape, lines_append hl, ih (fun s hs => h s (List.mem_cons_of_mem _ hs))
        fun s hs => hne s (List.mem_cons_of_mem _ hs)]

lemma mem_of_mem_dropReturn {s : List Char} {c : Char} (h : c ∈ dropReturn s) : c ∈ s := by
  rw [dropReturn] at h
  split at h
  · exact List.mem_of_mem_dropLast h
  · exact h

lemma mem_of_mem_closeLines {pieces : List (List Char)} {l : List Char} {c : Char}
    (hl : l ∈ closeLines pieces) (hc : c ∈ l) : ∃ piece ∈ pieces, c ∈ piece := by
  fun_induction closeLines pieces with
  | case1 => simp at hl
  | case2 => simp at hl
  | case3 last => exact ⟨last, by simp, by rwa [← List.mem_singleton.mp hl]⟩
  | case4 piece rest _ ih =>
    rcases List.mem_cons.mp hl with rfl | hl
    · exact ⟨piece, by simp, mem_of_mem_dropReturn hc⟩
    · obtain ⟨q, hq, hc⟩ := ih hl
      exact ⟨q, List.mem_cons_of_mem _ hq, hc⟩

lemma mem_of_mem_lines {s l : List Char} {c : Char} (hl : l ∈ lines s) (hc : c ∈ l) : c ∈ s := by
  obtain ⟨piece, hp, hc⟩ := mem_of_mem_closeLines hl hc
  exact mem_of_mem_splitOn hp hc

end CellMachine.Text
