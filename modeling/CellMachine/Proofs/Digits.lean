import Mathlib.Data.Nat.Digits.Defs
import Mathlib.Tactic
import CellMachine.Numeral

/-!
Digits as a notation for numbers. A text spells a number to a base if its characters stand for the
digits of the number, the most significant one first; leading zeros are allowed. What reads a
numeral accepts the texts that spell a number and no others.
-/

namespace CellMachine.Numeral

/-- The character stands for the digit; letters count in either case. -/
structure Digit (base : ℕ) (c : Char) (d : ℕ) : Prop where
  lt : d < base
  char : c = d.digitChar ∨ c = d.digitChar.toUpper

/-- One or more digits that have the value `n`. -/
def Spells (base : ℕ) (s : List Char) (n : ℕ) : Prop :=
  s ≠ [] ∧ ∃ ds, List.Forall₂ (Digit base) s ds ∧ n = Nat.ofDigits base ds.reverse

/-- An unsigned word, in decimal or, behind `0x`, in hexadecimal. -/
def Argument (s : List Char) (v : UInt32) : Prop :=
  Spells 10 s v.toNat ∨ ∃ t, (s = '0' :: 'x' :: t ∨ s = '0' :: 'X' :: t) ∧ Spells 16 t v.toNat

variable {base : ℕ} {c : Char} {d n : ℕ} {s t : List Char} {v : UInt32}

lemma digitValue_bind (hb : base ≤ 16) (c : Char) :
    digitValue base c = (digitValue 16 c).bind fun d => if d < base then some d else none := by
  unfold digitValue
  simp only
  generalize (if 48 ≤ c.toNat ∧ c.toNat ≤ 57 then c.toNat - 48
    else if 65 ≤ c.toNat ∧ c.toNat ≤ 70 then c.toNat - 55
    else if 97 ≤ c.toNat ∧ c.toNat ≤ 102 then c.toNat - 87 else 16) = d
  by_cases hd : d < 16
  · simp [hd]
  · have hlt : ¬ d < base := by omega
    simp [hd, hlt]

lemma digitValue_sixteen_eq_some_iff : digitValue 16 c = some d ↔ Digit 16 c d := by
  constructor
  · intro h
    rw [← Char.ofNat_toNat c]
    unfold digitValue at h
    generalize c.toNat = n at h
    simp only at h
    split_ifs at h with hdecimal _ hupper _ hlower _ hlt
    all_goals obtain rfl := Option.some.inj h
    · obtain ⟨hlo, hhi⟩ := hdecimal
      interval_cases n <;> exact ⟨by decide, by decide⟩
    · obtain ⟨hlo, hhi⟩ := hupper
      interval_cases n <;> exact ⟨by decide, by decide⟩
    · obtain ⟨hlo, hhi⟩ := hlower
      interval_cases n <;> exact ⟨by decide, by decide⟩
    · exact absurd hlt (lt_irrefl _)
  · rintro ⟨hlt, rfl | rfl⟩
    · interval_cases d <;> decide
    · interval_cases d <;> decide

lemma digitValue_eq_some_iff (hb : base ≤ 16) : digitValue base c = some d ↔ Digit base c d := by
  simp only [digitValue_bind hb, Option.bind_eq_some_iff, digitValue_sixteen_eq_some_iff]
  constructor
  · rintro ⟨e, ⟨-, hc⟩, he⟩
    split at he
    · next hlt =>
      obtain rfl := Option.some.inj he
      exact ⟨hlt, hc⟩
    · simp at he
  · rintro ⟨hlt, hc⟩
    exact ⟨d, ⟨by omega, hc⟩, if_pos hlt⟩

/-- Digits are read on from those before them. -/
lemma naturalFrom_eq_some_iff (hb : base ≤ 16) (acc : ℕ) :
    naturalFrom base acc s = some n ↔
      ∃ ds, List.Forall₂ (Digit base) s ds ∧
        n = acc * base ^ s.length + Nat.ofDigits base ds.reverse := by
  induction s generalizing acc with
  | nil => simp [eq_comm]
  | cons c s ih =>
    -- The value of the digits so far is moved by one place, and the next digit is added.
    have hmove : ∀ (d : ℕ) (ds : List ℕ), ds.length = s.length →
        (base * acc + d) * base ^ s.length + Nat.ofDigits base ds.reverse =
          acc * base ^ (c :: s).length + Nat.ofDigits base (d :: ds).reverse := by
      intro d ds hlength
      rw [List.reverse_cons, Nat.ofDigits_append, Nat.ofDigits_singleton, List.length_reverse,
        hlength, List.length_cons, pow_succ]
      ring
    simp only [naturalFrom_cons, Option.bind_eq_some_iff, digitValue_eq_some_iff hb, ih]
    constructor
    · rintro ⟨d, hd, ds, hds, rfl⟩
      exact ⟨d :: ds, .cons hd hds, hmove d ds hds.length_eq.symm⟩
    · rintro ⟨_, _ | @⟨_, d, _, ds, hd, hds⟩, rfl⟩
      exact ⟨d, hd, ds, hds, (hmove d ds hds.length_eq.symm).symm⟩

/-- **What is read as a number is what spells it.** -/
theorem natural?_eq_some_iff (hb : base ≤ 16) : natural? base s = some n ↔ Spells base s n := by
  cases s with
  | nil => simp [Spells]
  | cons c s =>
    simp only [natural?, naturalFrom_eq_some_iff hb, Nat.zero_mul, Nat.zero_add, Spells, ne_eq,
      reduceCtorEq, not_false_eq_true, true_and]

lemma Spells.digit (h : Spells base s n) : ∀ c ∈ s, ∃ d, Digit base c d := by
  obtain ⟨-, ds, hds, -⟩ := h
  intro c hc
  induction hds with
  | nil => simp at hc
  | @cons c' d s ds hd _ ih =>
    rcases List.mem_cons.mp hc with rfl | hc
    · exact ⟨d, hd⟩
    · exact ih hc

lemma not_spells_of_mem (hc : digitValue 10 c = none) (hs : c ∈ s) : ¬ Spells 10 s n := by
  intro h
  obtain ⟨d, hd⟩ := h.digit c hs
  simp [(digitValue_eq_some_iff (by omega)).mpr hd] at hc

lemma word_of_natural (hb : base ≤ 16) :
    ((natural? base s).bind fun n => if n < UInt32.size then some (UInt32.ofNat n) else none) =
      some v ↔ Spells base s v.toNat := by
  rw [← natural?_eq_some_iff hb, Option.bind_eq_some_iff]
  constructor
  · rintro ⟨n, hn, h⟩
    split at h
    · next hlt =>
      obtain rfl := Option.some.inj h
      rwa [UInt32.toNat_ofNat_of_lt' hlt]
    · simp at h
  · intro h
    exact ⟨v.toNat, h, by rw [if_pos v.toNat_lt_size, UInt32.ofNat_toNat]⟩

/-- **What is read as an argument is what spells a word.** -/
theorem argument?_eq_some_iff : argument? s = some v ↔ Argument s v := by
  have hnone : digitValue 10 'x' = none ∧ digitValue 10 'X' = none := by decide
  unfold argument? Argument
  split
  · next t =>
    rw [word_of_natural (by omega)]
    simp [not_spells_of_mem hnone.1 (by simp : 'x' ∈ '0' :: 'x' :: t)]
  · next t =>
    rw [word_of_natural (by omega)]
    simp [not_spells_of_mem hnone.2 (by simp : 'X' ∈ '0' :: 'X' :: t)]
  · next hlower hupper =>
    rw [word_of_natural (by omega)]
    constructor
    · exact .inl
    · rintro (h | ⟨t, rfl | rfl, -⟩)
      · exact h
      · exact absurd rfl (hlower t)
      · exact absurd rfl (hupper t)

end CellMachine.Numeral
