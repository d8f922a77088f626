import CellMachine.Proofs.CellNumbers
import CellMachine.Proofs.Planning

/-!
Words survive storage. A data word is written in decimal, an instruction word in hexadecimal, and
both are read from the text again. What changes a memory changes one cell, adds one at the end, or
takes one out and moves down those behind it, so it can be told of every cell where it is after any
number of changes. A word is read there until something else is written over it.
-/

namespace CellMachine

/-! ### Words as text -/

namespace Numeral

def capitalDigits : List Char := "0123456789ABCDEF".toList

lemma hexDigit_mem {n : ℕ} (h : n < 16) : hexDigit n ∈ capitalDigits := by
  interval_cases n <;> decide

lemma mem_capitalDigits {count n : ℕ} : ∀ c ∈ hexDigits count n, c ∈ capitalDigits := by
  induction count generalizing n with
  | zero => simp [hexDigits]
  | succ count ih =>
    intro c hc
    rcases List.mem_append.mp hc with hc | hc
    · exact ih c hc
    · rw [List.mem_singleton.mp hc]
      exact hexDigit_mem (Nat.mod_lt _ (by omega))

end Numeral

namespace Cell

/-- **A data word is an instruction word too if it is not negative.** -/
theorem instructionWord?_ofWord (v : Int32) (w : UInt32) :
    (ofWord v).instructionWord? = some w ↔ (w.toNat : ℤ) = v.toInt := by
  have hv := v.toInt_lt
  rw [instructionWord?, numeral?, ofWord, String.toList_ofList, Numeral.read?_decimal,
    Option.bind_some, Numeral.instructionWord?_eq_some_iff]
  simp only
  omega

lemma exists_instructionWord (v : Int32) (h : 0 ≤ v.toInt) :
    ∃ w, (ofWord v).instructionWord? = some w ∧ (w.toNat : ℤ) = v.toInt := by
  have hv := v.toInt_lt
  have hw : ((UInt32.ofNat v.toInt.toNat).toNat : ℤ) = v.toInt := by
    rw [UInt32.toNat_ofNat_of_lt' (by simp only [UInt32.size]; omega)]
    omega
  exact ⟨_, (instructionWord?_ofWord v _).mpr hw, hw⟩

lemma instructionWord?_of_neg (v : Int32) (h : v.toInt < 0) : (ofWord v).instructionWord? = none :=
  Option.eq_none_iff_forall_ne_some.mpr fun w hw => by
    have := (instructionWord?_ofWord v w).mp hw
    omega

lemma toInt_toInt32 (w : UInt32) :
    w.toInt32.toInt = if 2 * w.toNat < 2 ^ 32 then (w.toNat : ℤ) else w.toNat - 2 ^ 32 := by
  rw [← Int32.toInt_toBitVec, UInt32.toBitVec_toInt32, BitVec.toInt_eq_toNat_cond]
  rfl

/-- **An instruction word is a data word too**, the one with the same bits. -/
theorem dataWord?_hexadecimalWord (w : UInt32) :
    (Cell.mk (String.ofList (Numeral.hexadecimalWord w))).dataWord? = some w.toInt32 := by
  have hw : w.toNat < 2 ^ 32 := w.toNat_lt
  rw [dataWord?, numeral?, String.toList_ofList, Numeral.read?_hexadecimalWord, Option.bind_some,
    Numeral.dataWord?_eq_some_iff fun _ => Int.natCast_nonneg _, toInt_toInt32]
  simp only
  split
  · exact .inl ⟨by omega, by omega, rfl⟩
  · exact .inr ⟨trivial, by omega, by omega, rfl⟩

end Cell

/-! ### Changes of a memory -/

namespace Memory

inductive Change where
  | write (index : ℕ) (v : Int32)
  | overwrite (index : ℕ) (c : Cell)
  | push (c : Cell)
  | remove (index : ℕ)

/-- The memory after a change, and the fault that prevented it. -/
def settled (m : Memory) : Except Fault Memory → Except Fault Unit × Memory
  | .error f => (.error f, m)
  | .ok m' => (.ok (), m')

def perform (m : Memory) : Change → Except Fault Unit × Memory
  | .write index v => m.settled (m.write index v)
  | .overwrite index c => m.settled (m.overwrite index c)
  | .push c => (.ok (), m.push c)
  | .remove index => m.settled ((m.remove index).map Prod.snd)

/-- The memory after changes made one after another, whether or not they fail. -/
def performAll (m : Memory) (changes : List Change) : Memory :=
  changes.foldl (fun m change => (m.perform change).2) m

namespace Change

/-- Where the cell at index `k` is after a change, unless it is written over or taken out. -/
def place? (k : ℕ) : Change → Option ℕ
  | write index _ => if index = k then none else some k
  | overwrite index _ => if index = k then none else some k
  | push _ => some k
  | remove index => if index = k then none else some (if index < k then k - 1 else k)

def placeAfter? (k : ℕ) : List Change → Option ℕ
  | [] => some k
  | change :: rest => (change.place? k).bind fun k' => placeAfter? k' rest

/-- The change neither touches the cell at index `k` nor shifts it. -/
def Spares (k : ℕ) : Change → Prop
  | write index _ => index ≠ k
  | overwrite index _ => index ≠ k
  | push _ => True
  | remove index => k < index

end Change

variable {m m' : Memory} {k k' : ℕ} {c : Cell} {v : Int32} {change : Change}
  {changes before after : List Change}

/-! ### One change -/

lemma write_eq_ok_iff :
    m.write k v = .ok m' ↔ ∃ h : k < m.size, m' = ⟨m.cells.set k (.ofWord v) h⟩ := by
  rw [write]
  by_cases hk : k < m.size
  · simp [overwrite_of_lt hk, hk, eq_comm]
  · simp [overwrite_of_le (Nat.not_lt.mp hk), hk]

lemma size_write (h : m.write k v = .ok m') : m'.size = m.size := by
  obtain ⟨hk, rfl⟩ := write_eq_ok_iff.mp h
  exact Array.size_set hk

/-- **What is written is read, there and nowhere else.** -/
theorem read_write (h : m.write k v = .ok m') (j : ℕ) :
    m'.read j = if j = k then .ok (.ofWord v) else m.read j := by
  obtain ⟨hk, rfl⟩ := write_eq_ok_iff.mp h
  by_cases hj : j = k
  · subst hj
    rw [if_pos rfl, read_eq_ok_iff]
    exact Array.getElem?_set_self hk
  · rw [if_neg hj]
    have hsize : Memory.size ⟨m.cells.set k (.ofWord v) hk⟩ = m.size := Array.size_set hk
    simp only [read, Array.getElem?_set_ne hk (Ne.symm hj), fault, hsize]

lemma readWord_congr (h : m'.read k = m.read k) : m'.readWord k = m.readWord k := by
  rw [readWord, h, readWord]

lemma perform_of_error {f : Fault} (h : (m.perform change).1 = .error f) :
    (m.perform change).2 = m := by
  have hsettled : ∀ r : Except Fault Memory, (m.settled r).1 = .error f → (m.settled r).2 = m := by
    rintro (g | m') hr
    · rfl
    · simp [settled] at hr
  cases change with
  | write index v => exact hsettled _ h
  | overwrite index c => exact hsettled _ h
  | push c => simp [perform] at h
  | remove index => exact hsettled _ h

/-- A change moves a cell as `place?` says, and its text stays the same. -/
lemma cell_perform (h : m.cells[k]? = some c) (hp : change.place? k = some k') :
    (m.perform change).2.cells[k']? = some c := by
  have hk : k < m.cells.size := (Array.getElem?_eq_some_iff.mp h).1
  have settled_overwrite : ∀ {index : ℕ} {c' : Cell}, index ≠ k →
      (m.settled (m.overwrite index c')).2.cells[k]? = some c := by
    intro index c' hne
    by_cases hi : index < m.size
    · rw [overwrite_of_lt hi, settled, Array.getElem?_set_ne hi hne, h]
    · rw [overwrite_of_le (Nat.not_lt.mp hi)]
      exact h
  cases change with
  | write index v =>
    obtain ⟨hne, rfl⟩ : index ≠ k ∧ k = k' := by simpa [Change.place?] using hp
    exact settled_overwrite hne
  | overwrite index c' =>
    obtain ⟨hne, rfl⟩ : index ≠ k ∧ k = k' := by simpa [Change.place?] using hp
    exact settled_overwrite hne
  | push c' =>
    obtain rfl : k = k' := by simpa [Change.place?] using hp
    rw [perform, push, Array.getElem?_push_lt hk, ← h, Array.getElem?_eq_getElem hk]
  | remove index =>
    obtain ⟨hne, rfl⟩ : index ≠ k ∧ (if index < k then k - 1 else k) = k' := by
      simpa [Change.place?] using hp
    by_cases hi : index < m.cells.size
    · simp only [perform, remove, dif_pos hi, settled, Except.map, Array.getElem?_eraseIdx]
      by_cases hlt : index < k
      · rw [if_pos hlt, if_neg (by omega), Nat.sub_add_cancel (by omega), h]
      · rw [if_neg hlt, if_pos (by omega), h]
    · simp only [perform, remove, dif_neg hi, settled, Except.map]
      rw [if_neg (by omega), h]

/-! ### Changes made one after another -/

lemma performAll_append :
    m.performAll (before ++ after) = (m.performAll before).performAll after :=
  List.foldl_append

lemma cell_performAll (h : m.cells[k]? = some c) (hp : Change.placeAfter? k changes = some k') :
    (m.performAll changes).cells[k']? = some c := by
  induction changes generalizing m k with
  | nil =>
    obtain rfl : k = k' := by simpa [Change.placeAfter?] using hp
    exact h
  | cons change rest ih =>
    obtain ⟨j, hj, hp⟩ := Option.bind_eq_some_iff.mp hp
    exact ih (cell_perform h hj) hp

lemma Change.Spares.place?_eq (h : change.Spares k) : change.place? k = some k := by
  cases change with
  | write index v => exact if_neg h
  | overwrite index c => exact if_neg h
  | push c => rfl
  | remove index =>
    have h : k < index := h
    rw [place?, if_neg (by omega), if_neg (by omega)]

lemma placeAfter?_of_spares (h : ∀ change ∈ changes, change.Spares k) :
    Change.placeAfter? k changes = some k := by
  induction changes with
  | nil => rfl
  | cons change rest ih =>
    rw [Change.placeAfter?, (h change List.mem_cons_self).place?_eq, Option.bind_some,
      ih fun change hc => h change (List.mem_cons_of_mem _ hc)]

/-- **A word that has been written is read where its cell has moved**, whatever is changed besides
that cell before and after. -/
theorem readWord_performAll (hk : k < (m.performAll before).size)
    (hp : Change.placeAfter? k after = some k') :
    (m.performAll (before ++ .write k v :: after)).readWord k' = .ok v := by
  rw [performAll_append, performAll, List.foldl_cons]
  refine readWord_of_cell (cell_performAll (k := k) ?_ hp)
  rw [perform, write, overwrite_of_lt hk, settled]
  exact Array.getElem?_set_self hk

end Memory

open Memory

/-- **Words survive storage.** A word can be written in every cell there is. It is read there
afterwards, as an instruction word too unless it is negative, and nothing else has changed. A change
that fails changes nothing. An instruction word is written as `0x` and eight hexadecimal digits, and
read from them as an instruction word and as the data word with the same bits. After any number of
changes a cell holds the word last written in it, if none of those since has touched or shifted
it. -/
theorem words_survive_storage :
    (∀ (m : Memory) (k : ℕ) (v : Int32),
      ((∃ m', m.write k v = .ok m') ↔ k < m.size) ∧
      ∀ m', m.write k v = .ok m' →
        m'.readWord k = .ok v ∧
        (∃ c, m'.read k = .ok c ∧
          (0 ≤ v.toInt → ∃ w, c.instructionWord? = some w ∧ (w.toNat : ℤ) = v.toInt) ∧
          (v.toInt < 0 → c.instructionWord? = none)) ∧
        (∀ j ≠ k, m'.read j = m.read j ∧ m'.readWord j = m.readWord j) ∧
        m'.size = m.size) ∧
    (∀ (m : Memory) (change : Change) (f : Fault),
      (m.perform change).1 = .error f → (m.perform change).2 = m) ∧
    (∀ w : UInt32, ∃ digits,
      Numeral.hexadecimalWord w = '0' :: 'x' :: digits ∧ digits.length = 8 ∧
      (∀ c ∈ digits, c ∈ Numeral.capitalDigits) ∧
      (Cell.mk (String.ofList (Numeral.hexadecimalWord w))).instructionWord? = some w ∧
      (Cell.mk (String.ofList (Numeral.hexadecimalWord w))).dataWord? = some w.toInt32) ∧
    (∀ (m : Memory) (before after : List Change) (k : ℕ) (v : Int32),
      k < (m.performAll before).size → (∀ change ∈ after, change.Spares k) →
        (m.performAll (before ++ .write k v :: after)).readWord k = .ok v) := by
  refine ⟨fun m k v => ⟨?_, fun m' h => ?_⟩, fun m change f => perform_of_error, fun w => ?_,
    fun m before after k v hk hafter => readWord_performAll hk (placeAfter?_of_spares hafter)⟩
  · simp only [write_eq_ok_iff, exists_comm (α := Memory), exists_eq, exists_prop, and_true]
  · have hwritten : m'.read k = .ok (.ofWord v) := by rw [read_write h, if_pos rfl]
    have hkept : ∀ j ≠ k, m'.read j = m.read j := fun j hj => by rw [read_write h, if_neg hj]
    exact ⟨readWord_of_cell ((read_eq_ok_iff ..).mp hwritten),
      ⟨_, hwritten, Cell.exists_instructionWord v, Cell.instructionWord?_of_neg v⟩,
      fun j hj => ⟨hkept j hj, readWord_congr (hkept j hj)⟩, size_write h⟩
  · exact ⟨_, rfl, Numeral.length_hexDigits .., Numeral.mem_capitalDigits,
      Cell.instructionWord?_hexadecimalWord w, Cell.dataWord?_hexadecimalWord w⟩

/-- Where cells in front and behind are written, taken out and added, and a change fails. -/
theorem words_survive_storage_among_removals :
    let m := Memory.ofLines ["0x4B000000", "data", "12"]
    let before := [Change.push ⟨"7"⟩, .remove 0]
    let after := [Change.write 0 3, .remove 2, .overwrite 0 ⟨"end"⟩, .remove 5]
    (∃ m', m.write 2 (-5) = .ok m' ∧ m'.readWord 2 = .ok (-5) ∧ m'.size = 3) ∧
    (m.perform (.remove 3)).2 = m ∧
    1 < (m.performAll before).size ∧ (∀ change ∈ after, change.Spares 1) ∧
    (m.performAll (before ++ .write 1 (-5) :: after)).readWord 1 = .ok (-5) := by
  have hwrite : ∃ m', (Memory.ofLines ["0x4B000000", "data", "12"]).write 2 (-5) = .ok m' :=
    (words_survive_storage.1 _ 2 (-5)).1.mpr (by decide)
  have hsize : 1 < ((Memory.ofLines ["0x4B000000", "data", "12"]).performAll
      [.push ⟨"7"⟩, .remove 0]).size := by
    simp [performAll, perform, settled, push, remove, ofLines, Except.map, size]
  have hafter : ∀ change ∈ [Change.write 0 3, .remove 2, .overwrite 0 ⟨"end"⟩, .remove 5],
      change.Spares 1 := by
    simp [Change.Spares]
  obtain ⟨m', hm'⟩ := hwrite
  have hspec := (words_survive_storage.1 _ 2 (-5)).2 m' hm'
  exact ⟨⟨m', hm', hspec.1, hspec.2.2.2⟩,
    words_survive_storage.2.1 _ (.remove 3) (.outside 3 3) rfl, hsize, hafter,
    words_survive_storage.2.2.2 _ _ _ 1 (-5) hsize hafter⟩

end CellMachine
