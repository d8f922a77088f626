import CellMachine.Proofs.Grammar

/-!
The numbers that cells hold. A numeral is written in decimal, with an optional sign, or in
hexadecimal behind `0x`, between blanks; it may be as long as it likes and has the value that its
digits spell. A cell is read as an instruction word or as a data word if its numeral is in range,
and only a hexadecimal numeral beyond the largest data word stands for a negative one. A reader that
goes from left to right, tries hexadecimal before decimal, and holds no more than sixty-four bits
reads the same words: what is too large for it is too large for a word.
-/

namespace CellMachine

open Text

namespace Numeral

inductive Plain : List Char → Numeral → Prop where
  | hexadecimal {x : Char} {s : List Char} {n : ℕ} (mark : x = 'x' ∨ x = 'X')
    (digits : Spells 16 s n) : Plain ('0' :: x :: s) ⟨true, n⟩
  | unsigned {s : List Char} {n : ℕ} (digits : Spells 10 s n) : Plain s ⟨false, n⟩
  | positive {s : List Char} {n : ℕ} (digits : Spells 10 s n) : Plain ('+' :: s) ⟨false, n⟩
  | negative {s : List Char} {n : ℕ} (digits : Spells 10 s n) : Plain ('-' :: s) ⟨false, -n⟩

def Padding (s : List Char) : Prop := ∀ c ∈ s, c = ' ' ∨ c = '\t' ∨ c = '\r' ∨ c = '\n'

/-- A text that denotes a number: a numeral between blanks. -/
inductive Denotes : List Char → Numeral → Prop where
  | padded {a s b : List Char} {m : Numeral} (before : Padding a) (after : Padding b)
    (plain : Plain s m) : Denotes (a ++ s ++ b) m

variable {s a b : List Char} {m : Numeral} {n : ℕ}

lemma padding_iff : Padding s ↔ ∀ c ∈ s, isCellBlank c = true := by
  simp [Padding, isCellBlank, or_assoc]

/-! ### Reading -/

lemma natural?_ten_eq_some_iff : natural? 10 s = some n ↔ Spells 10 s n :=
  natural?_eq_some_iff (by omega)

lemma natural?_sixteen_eq_some_iff : natural? 16 s = some n ↔ Spells 16 s n :=
  natural?_eq_some_iff (by omega)

/-- **What is read as a numeral is what is one.** A text behind `0x` or a sign is no unsigned
decimal, so the alternatives exclude each other. -/
theorem bare?_eq_some_iff : bare? s = some m ↔ Plain s m := by
  constructor
  · intro h
    unfold bare? at h
    split at h
    all_goals
      obtain ⟨v, hv, rfl⟩ := Option.map_eq_some_iff.mp h
      obtain ⟨n, hn, hcast⟩ := Option.bind_eq_some_iff.mp hv
      obtain rfl : (n : ℤ) = v := Option.some.inj hcast
    · exact .hexadecimal (.inl rfl) (natural?_sixteen_eq_some_iff.mp hn)
    · exact .hexadecimal (.inr rfl) (natural?_sixteen_eq_some_iff.mp hn)
    · exact .positive (natural?_ten_eq_some_iff.mp hn)
    · exact .negative (natural?_ten_eq_some_iff.mp hn)
    · exact .unsigned (natural?_ten_eq_some_iff.mp hn)
  · intro h
    cases h with
    | hexadecimal mark digits =>
      rcases mark with rfl | rfl
      · simp [bare?, natural?_sixteen_eq_some_iff.mpr digits]
      · simp [bare?, natural?_sixteen_eq_some_iff.mpr digits]
    | unsigned digits =>
      unfold bare?
      split
      · exact absurd digits (not_spells_of_mem (c := 'x') (by decide) (by simp))
      · exact absurd digits (not_spells_of_mem (c := 'X') (by decide) (by simp))
      · exact absurd digits (not_spells_of_mem (c := '+') (by decide) (by simp))
      · exact absurd digits (not_spells_of_mem (c := '-') (by decide) (by simp))
      · rw [natural?_ten_eq_some_iff.mpr digits]
        rfl
    | positive digits => simp [bare?, natural?_ten_eq_some_iff.mpr digits]
    | negative digits => simp [bare?, natural?_ten_eq_some_iff.mpr digits]

lemma isCellBlank_of_isWhite {c : Char} (h : isWhite c = false) : isCellBlank c = false := by
  rw [← Bool.not_eq_true]
  intro hc
  simp only [isCellBlank, Bool.or_eq_true, beq_iff_eq] at hc
  rcases hc with ((rfl | rfl) | rfl) | rfl <;> exact absurd h (by decide)

lemma isCellBlank_of_spells {base : ℕ} (hb : base ≤ 16) (h : Spells base s n) :
    ∀ c ∈ s, isCellBlank c = false := fun c hc =>
  isCellBlank_of_isWhite (isWhite_of_isAlphanum (Assembly.isAlphanum_of_spells hb h c hc))

lemma Plain.isCellBlank (h : Plain s m) : ∀ c ∈ s, Text.isCellBlank c = false := by
  cases h with
  | hexadecimal mark digits =>
    have hrest := isCellBlank_of_spells (by omega) digits
    rcases mark with rfl | rfl
    · simpa [Text.isCellBlank] using hrest
    · simpa [Text.isCellBlank] using hrest
  | unsigned digits => exact isCellBlank_of_spells (by omega) digits
  | positive digits => simpa [Text.isCellBlank] using isCellBlank_of_spells (by omega) digits
  | negative digits => simpa [Text.isCellBlank] using isCellBlank_of_spells (by omega) digits

/-- **What is read between blanks is what denotes a number.** -/
theorem read?_eq_some_iff : read? s = some m ↔ Denotes s m := by
  rw [read?, bare?_eq_some_iff]
  constructor
  · intro h
    obtain ⟨a, b, hs, ha, hb⟩ := exists_trim Text.isCellBlank s
    rw [hs]
    exact .padded (padding_iff.mpr ha) (padding_iff.mpr hb) h
  · rintro ⟨before, after, plain⟩
    rw [trim_append (padding_iff.mp before) (padding_iff.mp after), trim_of_none plain.isCellBlank]
    exact plain

example : Denotes [' ', '\t', '-', '0', '7', '\r'] ⟨false, -7⟩ := read?_eq_some_iff.mp (by decide)

/-! ### Ranges -/

lemma Denotes.nonneg (h : Denotes s m) (hx : m.hexadecimal = true) : 0 ≤ m.value := by
  obtain ⟨-, -, plain⟩ := h
  cases plain with
  | hexadecimal => exact Int.natCast_nonneg _
  | unsigned | positive | negative => simp at hx

lemma instructionWord?_eq_some_iff {w : UInt32} :
    m.instructionWord? = some w ↔ 0 ≤ m.value ∧ m.value < 2 ^ 32 ∧ (w.toNat : ℤ) = m.value := by
  unfold instructionWord?
  constructor
  · intro h
    split at h
    · next hrange =>
      obtain rfl := Option.some.inj h
      obtain ⟨hnonneg, hlt⟩ := hrange
      have hsize : m.value.toNat < UInt32.size := by omega
      refine ⟨hnonneg, hlt, ?_⟩
      rw [UInt32.toNat_ofNat_of_lt' hsize, Int.toNat_of_nonneg hnonneg]
    · simp at h
  · rintro ⟨hnonneg, hlt, hw⟩
    have hword : m.value.toNat = w.toNat := by omega
    rw [if_pos ⟨hnonneg, hlt⟩, hword, UInt32.ofNat_toNat]

lemma ofInt_eq_iff {v : ℤ} (hlo : -2 ^ 31 ≤ v) (hhi : v < 2 ^ 31) {d : Int32} :
    Int32.ofInt v = d ↔ d.toInt = v := by
  have hv : (Int32.ofInt v).toInt = v := Int32.toInt_ofInt_of_le hlo hhi
  rw [← Int32.toInt_inj, hv, eq_comm]

lemma dataWord?_eq_some_iff {d : Int32} (hm : m.hexadecimal = true → 0 ≤ m.value) :
    m.dataWord? = some d ↔
      (-2 ^ 31 ≤ m.value ∧ m.value < 2 ^ 31 ∧ d.toInt = m.value) ∨
        (m.hexadecimal = true ∧ 2 ^ 31 ≤ m.value ∧ m.value < 2 ^ 32 ∧
          d.toInt = m.value - 2 ^ 32) := by
  have hmin : Int32.minValue.toInt = -2 ^ 31 := by decide
  have hmax : Int32.maxValue.toInt = 2 ^ 31 - 1 := by decide
  have hsize : (UInt32.size : ℤ) = 2 ^ 32 := by decide
  unfold dataWord?
  rw [hmin, hmax, hsize]
  split
  · next hrange =>
    obtain ⟨hlo, hhi⟩ := hrange
    rw [Option.some.injEq, ofInt_eq_iff hlo (by omega)]
    omega
  · next hrange =>
    split
    · next hwraps =>
      obtain ⟨hx, hlt⟩ := hwraps
      have hnonneg := hm hx
      rw [Option.some.injEq, ofInt_eq_iff (by omega) (by omega)]
      constructor
      · exact fun hd => .inr ⟨hx, by omega, hlt, hd⟩
      · rintro (⟨hlo, hhi, -⟩ | ⟨-, -, -, hd⟩)
        · omega
        · exact hd
    · next hwraps =>
      simp only [reduceCtorEq, false_iff, not_or]
      refine ⟨fun h => hrange ⟨h.1, by omega⟩, fun h => hwraps ⟨h.1, h.2.2.1⟩⟩

/-! ### Step by step -/

/-- A number that sixty-four bits with a sign can hold. -/
def Narrow (v : ℤ) : Prop := -2 ^ 63 ≤ v ∧ v < 2 ^ 63

instance (v : ℤ) : Decidable (Narrow v) := inferInstanceAs (Decidable (_ ∧ _))

/-- Reads digits from the front of a text, as many as there are and at least one, unless their
number with the sign is too large for sixty-four bits. What is behind the digits is left. -/
def scanDigits (base : ℕ) (sign : ℤ) (s : List Char) : Option (ℤ × List Char) :=
  let inside := fun c => (digitValue base c).isSome
  (natural? base (s.takeWhile inside)).bind fun n =>
    if Narrow (sign * n) then some (sign * n, s.dropWhile inside) else none

def scanHexadecimal : List Char → Option (ℤ × List Char)
  | '0' :: 'x' :: s => scanDigits 16 1 s
  | '0' :: 'X' :: s => scanDigits 16 1 s
  | _ => none

def scanDecimal : List Char → Option (ℤ × List Char)
  | '+' :: s => scanDigits 10 1 s
  | '-' :: s => scanDigits 10 (-1) s
  | s => scanDigits 10 1 s

/-- Skips blanks, reads a number in hexadecimal or else in decimal, and skips blanks to the end. -/
def scan (s : List Char) : Option ℤ :=
  let s := s.dropWhile isCellBlank
  (scanHexadecimal s <|> scanDecimal s).bind fun (v, rest) =>
    if rest.dropWhile isCellBlank = [] then some v else none

/-- Whether a number in hexadecimal stands behind the first blanks. -/
def startsHexadecimal (s : List Char) : Bool := (scanHexadecimal (s.dropWhile isCellBlank)).isSome

variable {base : ℕ} {sign v : ℤ} {rest : List Char}

lemma scanDigits_eq_some_iff (hb : base ≤ 16) :
    scanDigits base sign s = some (v, rest) ↔
      ∃ ds n, s = ds ++ rest ∧ Spells base ds n ∧ v = sign * n ∧ Narrow v ∧
        ∀ c ∈ rest.head?, digitValue base c = none := by
  unfold scanDigits
  simp only [Option.bind_eq_some_iff, natural?_eq_some_iff hb]
  constructor
  · rintro ⟨n, digits, h⟩
    split at h
    · next hnarrow =>
      obtain ⟨rfl, rfl⟩ : sign * n = v ∧ _ = rest := by simpa using h
      refine ⟨_, n, List.takeWhile_append_dropWhile.symm, digits, rfl, hnarrow, fun c hc => ?_⟩
      have hstop := List.head?_dropWhile_not (fun c => (digitValue base c).isSome) s
      rw [Option.mem_def.mp hc] at hstop
      simpa using hstop
    · simp at h
  · rintro ⟨ds, n, rfl, digits, rfl, hnarrow, hstop⟩
    have hinside : ∀ c ∈ ds, (digitValue base c).isSome = true := by
      intro c hc
      obtain ⟨d, hd⟩ := digits.digit c hc
      rw [(digitValue_eq_some_iff hb).mpr hd, Option.isSome_some]
    obtain ⟨htake, hdrop⟩ := Assembly.takeWhile_of_stop hinside (b := rest)
      fun c hc => by rw [hstop c hc, Option.isSome_none]
    exact ⟨n, by rwa [htake], by rw [if_pos hnarrow, hdrop]⟩

lemma scanHexadecimal_eq_some_iff :
    scanHexadecimal s = some (v, rest) ↔
      ∃ x t, s = '0' :: x :: t ∧ (x = 'x' ∨ x = 'X') ∧ scanDigits 16 1 t = some (v, rest) := by
  constructor
  · intro h
    unfold scanHexadecimal at h
    split at h
    · exact ⟨_, _, rfl, .inl rfl, h⟩
    · exact ⟨_, _, rfl, .inr rfl, h⟩
    · cases h
  · rintro ⟨x, t, rfl, rfl | rfl, h⟩
    · exact h
    · exact h

lemma plain_of_scan (h : (scanHexadecimal s <|> scanDecimal s) = some (v, rest)) :
    ∃ t m, s = t ++ rest ∧ Plain t m ∧ m.value = v ∧ Narrow v := by
  rcases (Option.orElse_eq_some _ _ _).mp h with hhex | ⟨-, hdec⟩
  · obtain ⟨x, t, rfl, mark, ht⟩ := scanHexadecimal_eq_some_iff.mp hhex
    obtain ⟨ds, n, rfl, digits, rfl, hnarrow, -⟩ := (scanDigits_eq_some_iff le_rfl).mp ht
    exact ⟨'0' :: x :: ds, _, rfl, .hexadecimal mark digits, (one_mul _).symm, hnarrow⟩
  · unfold scanDecimal at hdec
    split at hdec
    all_goals
      obtain ⟨ds, n, rfl, digits, rfl, hnarrow, -⟩ := (scanDigits_eq_some_iff (by omega)).mp hdec
    · exact ⟨'+' :: ds, _, rfl, .positive digits, (one_mul _).symm, hnarrow⟩
    · exact ⟨'-' :: ds, _, rfl, .negative digits, (neg_one_mul _).symm, hnarrow⟩
    · exact ⟨ds, _, rfl, .unsigned digits, (one_mul _).symm, hnarrow⟩

lemma scanHexadecimal_eq_none (h : ∀ c ∈ s, ¬(c = 'x' ∨ c = 'X')) : scanHexadecimal s = none := by
  rw [Option.eq_none_iff_forall_ne_some]
  rintro ⟨v, rest⟩ hscan
  obtain ⟨x, t, rfl, mark, -⟩ := scanHexadecimal_eq_some_iff.mp hscan
  exact h x (by simp) mark

lemma scanDecimal_of_spells (h : Spells 10 s n) (b : List Char) :
    scanDecimal (s ++ b) = scanDigits 10 1 (s ++ b) := by
  obtain ⟨c, t, rfl⟩ := List.exists_cons_of_ne_nil h.1
  unfold scanDecimal
  split
  · next heq =>
    obtain ⟨rfl, -⟩ := List.cons.inj heq
    exact absurd h (not_spells_of_mem (c := '+') (by decide) (by simp))
  · next heq =>
    obtain ⟨rfl, -⟩ := List.cons.inj heq
    exact absurd h (not_spells_of_mem (c := '-') (by decide) (by simp))
  · rfl

/-- **A numeral that is not too large is read up to the blanks behind it, in its own base.** -/
lemma scan_of_plain (h : Plain s m) (hn : Narrow m.value) (hb : Padding b) :
    (scanHexadecimal (s ++ b) <|> scanDecimal (s ++ b)) = some (m.value, b) ∧
      (scanHexadecimal (s ++ b)).isSome = m.hexadecimal := by
  have hstop : ∀ base ≤ 16, ∀ c ∈ b.head?, digitValue base c = none := by
    intro base hbase c hc
    rw [digitValue_bind hbase]
    rcases hb c (List.mem_of_mem_head? hc) with rfl | rfl | rfl | rfl <;> rfl
  have hdigits : ∀ {ds n} (sign : ℤ), Spells 10 ds n → Narrow (sign * n) →
      scanDigits 10 sign (ds ++ b) = some (sign * n, b) := fun _ digits hn =>
    (scanDigits_eq_some_iff (by omega)).mpr
      ⟨_, _, rfl, digits, rfl, hn, hstop 10 (by omega)⟩
  cases h with
  | @hexadecimal x ds n mark digits =>
    have hscan : scanHexadecimal ('0' :: x :: ds ++ b) = some ((n : ℤ), b) :=
      scanHexadecimal_eq_some_iff.mpr ⟨x, ds ++ b, rfl, mark, (scanDigits_eq_some_iff le_rfl).mpr
        ⟨ds, n, rfl, digits, (one_mul _).symm, hn, hstop 16 le_rfl⟩⟩
    rw [hscan]
    exact ⟨rfl, rfl⟩
  | @unsigned s n digits =>
    have hx : ∀ c ∈ s ++ b, ¬(c = 'x' ∨ c = 'X') := by
      intro c hc hmark
      rcases List.mem_append.mp hc with hc | hc
      · rcases hmark with rfl | rfl <;> exact not_spells_of_mem (by decide) hc digits
      · have hblank := hb c hc
        rcases hmark with rfl | rfl <;> simp at hblank
    have hscan := hdigits 1 digits (by rwa [one_mul])
    rw [scanHexadecimal_eq_none hx, scanDecimal_of_spells digits, hscan, one_mul]
    exact ⟨rfl, rfl⟩
  | @positive s n digits =>
    have hscan := hdigits 1 digits (by rwa [one_mul])
    rw [one_mul] at hscan
    exact ⟨hscan, rfl⟩
  | @negative s n digits =>
    have hscan := hdigits (-1) digits (by rwa [neg_one_mul])
    rw [neg_one_mul] at hscan
    exact ⟨hscan, rfl⟩

lemma Plain.ne_nil (h : Plain s m) : s ≠ [] := by
  cases h with
  | unsigned digits => exact digits.1
  | _ => simp

lemma dropWhile_of_plain (ha : Padding a) (h : Plain s m) (b : List Char) :
    (a ++ s ++ b).dropWhile isCellBlank = s ++ b := by
  rw [List.append_assoc]
  refine (Assembly.takeWhile_of_stop (padding_iff.mp ha) fun c hc => ?_).2
  rw [List.head?_append_of_ne_nil s h.ne_nil] at hc
  exact h.isCellBlank c (List.mem_of_mem_head? hc)

/-- **The steps read the number that a text denotes, unless it is too large.** -/
theorem scan_eq_some_iff :
    scan s = some v ↔ ∃ m, Denotes s m ∧ Narrow m.value ∧ m.value = v := by
  unfold scan
  simp only [Option.bind_eq_some_iff, Prod.exists]
  constructor
  · rintro ⟨w, rest, hscan, h⟩
    split at h
    · next hrest =>
      obtain rfl : w = v := Option.some.inj h
      obtain ⟨t, m, hs, plain, rfl, hnarrow⟩ := plain_of_scan hscan
      have hbefore : Padding (s.takeWhile isCellBlank) :=
        padding_iff.mpr fun c hc => List.mem_takeWhile_imp hc
      have hafter : Padding rest := padding_iff.mpr (List.dropWhile_eq_nil_iff.mp hrest)
      have hsplit : s = s.takeWhile isCellBlank ++ t ++ rest := by
        rw [List.append_assoc, ← hs, List.takeWhile_append_dropWhile]
      exact ⟨m, hsplit ▸ .padded hbefore hafter plain, hnarrow, rfl⟩
    · cases h
  · rintro ⟨m, ⟨before, after, plain⟩, hnarrow, rfl⟩
    rw [dropWhile_of_plain before plain]
    refine ⟨_, _, (scan_of_plain plain hnarrow after).1, ?_⟩
    rw [if_pos (List.dropWhile_eq_nil_iff.mpr (padding_iff.mp after))]

lemma startsHexadecimal_of_denotes (h : Denotes s m) (hn : Narrow m.value) :
    startsHexadecimal s = m.hexadecimal := by
  obtain ⟨before, after, plain⟩ := h
  rw [startsHexadecimal, dropWhile_of_plain before plain]
  exact (scan_of_plain plain hn after).2

lemma scan_eq (s : List Char) :
    scan s = (read? s).bind fun m => if Narrow m.value then some m.value else none := by
  ext v
  simp only [scan_eq_some_iff, Option.bind_eq_some_iff, read?_eq_some_iff,
    Option.ite_none_right_eq_some, Option.some.injEq]

end Numeral

open Numeral

namespace Cell

def scanInstructionWord? (c : Cell) : Option UInt32 :=
  (scan c.text.toList).bind fun v =>
    if 0 ≤ v ∧ v < UInt32.size then some (UInt32.ofNat v.toNat) else none

/-- Reads a data word by the steps above. A number beyond the largest data word is cut to its last
thirty-two bits if the text, looked at once more, is hexadecimal. -/
def scanDataWord? (c : Cell) : Option Int32 :=
  (scan c.text.toList).bind fun v =>
    if Int32.minValue.toInt ≤ v ∧ v ≤ Int32.maxValue.toInt then some (Int32.ofInt v)
    else if startsHexadecimal c.text.toList ∧ v < UInt32.size then some (Int32.ofInt v)
    else none

/-- No instruction word is lost to the sixty-four bits. -/
theorem scanInstructionWord?_eq (c : Cell) : c.scanInstructionWord? = c.instructionWord? := by
  have hsize : (UInt32.size : ℤ) = 2 ^ 32 := by decide
  simp only [scanInstructionWord?, scan_eq, Option.bind_assoc, Cell.instructionWord?, numeral?]
  refine Option.bind_congr fun m _ => ?_
  by_cases hn : Narrow m.value
  · rw [if_pos hn]
    rfl
  · have hout : ¬(0 ≤ m.value ∧ m.value < UInt32.size) := by
      unfold Narrow at hn
      omega
    rw [if_neg hn, Numeral.instructionWord?, if_neg hout]
    rfl

/-- No data word is lost to the sixty-four bits, and the second look at the text tells its base. -/
theorem scanDataWord?_eq (c : Cell) : c.scanDataWord? = c.dataWord? := by
  have hmin : Int32.minValue.toInt = -2 ^ 31 := by decide
  have hmax : Int32.maxValue.toInt = 2 ^ 31 - 1 := by decide
  have hsize : (UInt32.size : ℤ) = 2 ^ 32 := by decide
  simp only [scanDataWord?, scan_eq, Option.bind_assoc, Cell.dataWord?, numeral?]
  refine Option.bind_congr fun m hm => ?_
  have hdenotes := read?_eq_some_iff.mp hm
  by_cases hn : Narrow m.value
  · rw [if_pos hn, startsHexadecimal_of_denotes hdenotes hn, Option.bind_some, Numeral.dataWord?]
    have hcut : Int32.ofInt (m.value - UInt32.size) = Int32.ofInt m.value := by
      rw [← Int32.toInt_inj, Int32.toInt_ofInt, Int32.toInt_ofInt]
      exact Int.sub_bmod_right m.value UInt32.size
    rw [hcut]
  · have hout : ¬(Int32.minValue.toInt ≤ m.value ∧ m.value ≤ Int32.maxValue.toInt) := by
      unfold Narrow at hn
      omega
    have hbeyond : ¬(m.hexadecimal = true ∧ m.value < UInt32.size) := by
      rintro ⟨hx, hlt⟩
      have hnonneg := hdenotes.nonneg hx
      unfold Narrow at hn
      omega
    rw [if_neg hn, Numeral.dataWord?, if_neg hout, if_neg hbeyond]
    rfl

end Cell

/-- **The numbers of cells are read exactly.** A text denotes one number at most. A cell is read as
an instruction word if and only if its text denotes a number from zero up to thirty-two bits, and
the word is that number. It is read as a data word if and only if its text denotes a number that
fits thirty-two bits with a sign, and the word is that number, or denotes a larger number of thirty-
two bits in hexadecimal, whose bit pattern the word has. Reading step by step, with numbers of
sixty-four bits only, gives the same words, however long a numeral is. -/
theorem Cell.numbers_read_exactly (c : Cell) :
    (∀ m m', Denotes c.text.toList m → Denotes c.text.toList m' → m = m') ∧
    (∀ w : UInt32, c.instructionWord? = some w ↔
      ∃ m, Denotes c.text.toList m ∧ 0 ≤ m.value ∧ m.value < 2 ^ 32 ∧ (w.toNat : ℤ) = m.value) ∧
    (∀ d : Int32, c.dataWord? = some d ↔
      ∃ m, Denotes c.text.toList m ∧
        ((-2 ^ 31 ≤ m.value ∧ m.value < 2 ^ 31 ∧ d.toInt = m.value) ∨
          (m.hexadecimal = true ∧ 2 ^ 31 ≤ m.value ∧ m.value < 2 ^ 32 ∧
            d.toInt = m.value - 2 ^ 32))) ∧
    c.scanInstructionWord? = c.instructionWord? ∧ c.scanDataWord? = c.dataWord? := by
  refine ⟨fun m m' hm hm' => ?_, fun w => ?_, fun d => ?_, c.scanInstructionWord?_eq,
    c.scanDataWord?_eq⟩
  · have hread := read?_eq_some_iff.mpr hm
    rw [read?_eq_some_iff.mpr hm'] at hread
    exact (Option.some.inj hread).symm
  · simp only [Cell.instructionWord?, numeral?, Option.bind_eq_some_iff, read?_eq_some_iff,
      instructionWord?_eq_some_iff]
  · simp only [Cell.dataWord?, numeral?, Option.bind_eq_some_iff, read?_eq_some_iff]
    refine exists_congr fun m => and_congr_right fun hm => ?_
    exact dataWord?_eq_some_iff hm.nonneg

end CellMachine
