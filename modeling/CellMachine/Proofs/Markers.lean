import CellMachine.Proofs.Numerals

/-!
Markers among the lines of a program. ASCII is put in lower case character by character. What the
assembler writes is ASCII, and neither the digits of an instruction word nor a decimal contain the
`o` of `job` or the `t` of `data`.
-/

namespace CellMachine

namespace Text

variable {earlier later s needle : List Char} {c : Char}

/-- The lower case of a character that stands behind `earlier`, the nearest character first, and
before `later`. -/
def lowerAt (earlier : List Char) (c : Char) (later : List Char) : List Char :=
  if c = 'Σ' then (if startsCased earlier && !startsCased later then ['ς'] else ['σ'])
  else lowerChar c

lemma lowerAfter_cons (earlier : List Char) (c : Char) (s : List Char) :
    lowerAfter earlier (c :: s) = lowerAt earlier c s ++ lowerAfter (c :: earlier) s := rfl

lemma lowerAt_of_ne (hc : c ≠ 'Σ') : lowerAt earlier c later = lowerChar c := if_neg hc

lemma lowerAt_of_ascii (hc : c.toNat < 0x80) : lowerAt earlier c later = [c.toLower] := by
  have hsigma : c ≠ 'Σ' := by
    rintro rfl
    exact absurd hc (by decide)
  rw [lowerAt_of_ne hsigma, lowerChar_of_ascii hc]

lemma lowerAfter_of_ascii (earlier : List Char) (h : ∀ c ∈ s, c.toNat < 0x80) :
    lowerAfter earlier s = s.map Char.toLower := by
  induction s generalizing earlier with
  | nil => rfl
  | cons c s ih =>
    rw [lowerAfter_cons, lowerAt_of_ascii (h c (by simp)), ih _ fun d hd => h d (by simp [hd])]
    rfl

lemma lower_of_ascii (h : ∀ c ∈ s, c.toNat < 0x80) : lower s = s.map Char.toLower :=
  lowerAfter_of_ascii [] h

lemma containsIgnoreCase_eq_false (h : ∀ d ∈ s, d.toNat < 0x80 ∧ d.toLower ≠ c)
    (hc : c ∈ lower needle) : containsIgnoreCase s needle = false := by
  rw [containsIgnoreCase, ← Bool.not_eq_true, occursIn_iff, lower_of_ascii fun d hd => (h d hd).1]
  intro hin
  obtain ⟨d, hd, rfl⟩ := List.mem_map.mp (hin.subset hc)
  exact (h d hd).2 rfl

end Text

namespace Cell

lemma not_marker_of_written {c : Cell} (h : ∀ d ∈ c.text.toList, d ∈ Numeral.written) :
    c.isJobHeader = false ∧ c.isDataMarker = false := by
  have hjob : Numeral.written.all (fun d => d.toNat < 0x80 && d.toLower != 'o') = true := by decide
  have hdata : Numeral.written.all (fun d => d.toNat < 0x80 && d.toLower != 't') = true := by decide
  refine ⟨Text.containsIgnoreCase_eq_false (c := 'o') (fun d hd => ?_) (by decide),
    Text.containsIgnoreCase_eq_false (c := 't') (fun d hd => ?_) (by decide)⟩
  · simpa using List.all_eq_true.mp hjob d (h d hd)
  · simpa using List.all_eq_true.mp hdata d (h d hd)

end Cell

end CellMachine
