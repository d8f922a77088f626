import Mathlib.Tactic
import CellMachine.Memory.Store
import CellMachine.Proofs.Texts

/-!
Numerals read back as they are written: the decimals of data words, and the eight hexadecimal digits
of instruction words.
-/

namespace CellMachine

namespace Numeral

/-- The characters of numerals as they are written. -/
def written : List Char :=
  ['0', '1', '2', '3', '4', '5', '6', '7', '8', '9', 'A', 'B', 'C', 'D', 'E', 'F', 'x', '-']

lemma isCellBlank_of_written {c : Char} (h : c ∈ written) : Text.isCellBlank c = false := by
  have hall : written.all (fun c => !Text.isCellBlank c) = true := by decide
  simpa using List.all_eq_true.mp hall c h

/-! ### Decimals -/

lemma digitValue_digitChar {d : ℕ} (h : d < 10) : digitValue 10 d.digitChar = some d := by
  have hc := Nat.toNat_digitChar_of_lt_ten h
  simp only [digitValue, hc]
  have h' : 48 ≤ 48 + d ∧ 48 + d ≤ 57 := by omega
  simp only [h', and_self, if_true, Nat.add_sub_cancel_left, h]

lemma naturalFrom_digits (n : ℕ) : naturalFrom 10 0 (digits n) = some n := by
  induction n using Nat.strong_induction_on with
  | _ n ih =>
    rcases lt_or_ge n 10 with h | h
    · rw [digits, Nat.toDigits_of_lt_base h, naturalFrom_cons, digitValue_digitChar h]
      simp
    · have hd : n % 10 < 10 := Nat.mod_lt _ (by omega)
      rw [digits, Nat.toDigits_of_base_le (by omega) h, naturalFrom_append]
      rw [show Nat.toDigits 10 (n / 10) = digits (n / 10) from rfl, ih (n / 10) (by omega)]
      rw [Option.bind_some, naturalFrom_cons, digitValue_digitChar hd, Option.bind_some,
        naturalFrom_nil]
      congr 1
      omega

lemma digits_ne_nil (n : ℕ) : digits n ≠ [] := Nat.toDigits_ne_nil

lemma isDigit_of_mem_digits {n : ℕ} {c : Char} (h : c ∈ digits n) : c.isDigit = true :=
  Nat.isDigit_of_mem_toDigits (by omega) (by omega) h

lemma natural?_digits (n : ℕ) : natural? 10 (digits n) = some n := by
  have h := naturalFrom_digits n
  rcases hd : digits n with _ | ⟨c, s⟩
  · exact absurd hd (digits_ne_nil n)
  · rw [hd] at h
    exact h

lemma bare?_digits (n : ℕ) : bare? (digits n) = some ⟨false, n⟩ := by
  have hn := natural?_digits n
  have hdigit : ∀ c ∈ digits n, c.isDigit = true := fun c => isDigit_of_mem_digits
  unfold bare?
  split
  · next s h => simp [h, Char.isDigit] at hdigit
  · next s h => simp [h, Char.isDigit] at hdigit
  · next s h => simp [h, Char.isDigit] at hdigit
  · next s h => simp [h, Char.isDigit] at hdigit
  · rw [hn]
    rfl

lemma bare?_decimal (v : ℤ) : bare? (decimal v) = some ⟨false, v⟩ := by
  cases v with
  | ofNat n => exact bare?_digits n
  | negSucc n =>
    simp only [decimal, bare?, natural?_digits]
    rfl

lemma toNat_of_isDigit {c : Char} (h : c.isDigit = true) : 48 ≤ c.toNat ∧ c.toNat ≤ 57 := by
  simpa [Char.isDigit, UInt32.le_iff_toNat_le] using h

lemma mem_written_of_isDigit {c : Char} (h : c.isDigit = true) : c ∈ written := by
  have hc := toNat_of_isDigit h
  rw [← Char.ofNat_toNat c]
  generalize c.toNat = n at hc
  obtain ⟨hlo, hhi⟩ := hc
  interval_cases n <;> decide

lemma written_of_decimal {v : ℤ} : ∀ c ∈ decimal v, c ∈ written := by
  cases v with
  | ofNat n => exact fun c hc => mem_written_of_isDigit (isDigit_of_mem_digits hc)
  | negSucc n =>
    intro c hc
    rcases List.mem_cons.mp hc with rfl | hc
    · decide
    · exact mem_written_of_isDigit (isDigit_of_mem_digits hc)

lemma read?_decimal (v : ℤ) : read? (decimal v) = some ⟨false, v⟩ := by
  have hblank : ∀ c ∈ decimal v, Text.isCellBlank c = false := fun c hc =>
    isCellBlank_of_written (written_of_decimal c hc)
  rw [read?, Text.trim_of_none hblank, bare?_decimal]

/-! ### Hexadecimal words -/

lemma hexDigit_cases {n : ℕ} (h : n < 16) :
    digitValue 16 (hexDigit n) = some n ∧ hexDigit n ∈ written := by
  interval_cases n <;> decide

lemma naturalFrom_hexDigits (count acc n : ℕ) :
    naturalFrom 16 acc (hexDigits count n) = some (acc * 16 ^ count + n % 16 ^ count) := by
  induction count generalizing n with
  | zero => simp [hexDigits, Nat.mod_one]
  | succ count ih =>
    have hd : n % 16 < 16 := Nat.mod_lt _ (by omega)
    rw [hexDigits, naturalFrom_append, ih, Option.bind_some, naturalFrom_cons,
      (hexDigit_cases hd).1, Option.bind_some, naturalFrom_nil]
    congr 1
    rw [Nat.pow_succ', Nat.mod_mul]
    ring

lemma written_of_hexDigits {count n : ℕ} : ∀ c ∈ hexDigits count n, c ∈ written := by
  induction count generalizing n with
  | zero => simp [hexDigits]
  | succ count ih =>
    intro c hc
    rcases List.mem_append.mp hc with hc | hc
    · exact ih c hc
    · obtain rfl := List.mem_singleton.mp hc
      exact (hexDigit_cases (Nat.mod_lt _ (by omega))).2

lemma written_of_hexadecimalWord {w : UInt32} : ∀ c ∈ hexadecimalWord w, c ∈ written := by
  intro c hc
  simp only [hexadecimalWord, List.mem_cons] at hc
  rcases hc with rfl | rfl | hc
  · decide
  · decide
  · exact written_of_hexDigits c hc

lemma natural?_hexDigits (w : UInt32) : natural? 16 (hexDigits 8 w.toNat) = some w.toNat := by
  have h := naturalFrom_hexDigits 8 0 w.toNat
  have hlt : w.toNat < 16 ^ 8 := w.toNat_lt
  rw [Nat.mod_eq_of_lt hlt, Nat.zero_mul, Nat.zero_add] at h
  rcases hd : hexDigits 8 w.toNat with _ | ⟨c, s⟩
  · have := length_hexDigits 8 w.toNat
    simp [hd] at this
  · rw [hd] at h
    exact h

lemma read?_hexadecimalWord (w : UInt32) :
    read? (hexadecimalWord w) = some ⟨true, w.toNat⟩ := by
  have hblank : ∀ c ∈ hexadecimalWord w, Text.isCellBlank c = false := fun c hc =>
    isCellBlank_of_written (written_of_hexadecimalWord c hc)
  rw [read?, Text.trim_of_none hblank, hexadecimalWord, bare?, natural?_hexDigits]
  rfl

end Numeral

namespace Cell

/-- **A data word reads back as it is written.** -/
theorem dataWord?_ofWord (v : Int32) : (ofWord v).dataWord? = some v := by
  have hv : Int32.minValue.toInt ≤ v.toInt ∧ v.toInt ≤ Int32.maxValue.toInt :=
    ⟨v.minValue_le_toInt, v.toInt_le⟩
  rw [dataWord?, numeral?, ofWord, String.toList_ofList, Numeral.read?_decimal, Option.bind_some,
    Numeral.dataWord?, if_pos hv, Int32.ofInt_toInt]

/-- **An instruction word reads back as it is written.** -/
theorem instructionWord?_hexadecimalWord (w : UInt32) :
    (Cell.mk (String.ofList (Numeral.hexadecimalWord w))).instructionWord? = some w := by
  have hw : (0 : ℤ) ≤ w.toNat ∧ (w.toNat : ℤ) < UInt32.size := by
    have := w.toNat_lt_size
    omega
  rw [instructionWord?, numeral?, String.toList_ofList, Numeral.read?_hexadecimalWord,
    Option.bind_some, Numeral.instructionWord?, if_pos hw, Int.toNat_natCast, UInt32.ofNat_toNat]

end Cell

lemma Memory.readWord_of_cell {m : Memory} {k : ℕ} {v : Int32}
    (h : m.cells[k]? = some (.ofWord v)) : m.readWord k = .ok v := by
  simp only [readWord, read, h, Cell.dataWord?_ofWord]

end CellMachine
