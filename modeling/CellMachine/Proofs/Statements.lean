import Mathlib
import CellMachine.Proofs.Assembling
import CellMachine.Proofs.Numerals

/-!
Instructions read back as they are written. The name of a statement ends where its suffix or its
list begins, the numbers of the list stand between commas, and what is read means the instruction
again, if a word can hold it.
-/

namespace CellMachine

open Text

/-! ### Characters of statements -/

lemma isWhite_of_isAlphanum {c : Char} (h : c.isAlphanum = true) : isWhite c = false := by
  have hc : (65 ≤ c.toNat ∧ c.toNat ≤ 90 ∨ 97 ≤ c.toNat ∧ c.toNat ≤ 122) ∨
      48 ≤ c.toNat ∧ c.toNat ≤ 57 := by
    simpa [Char.isAlphanum, Char.isAlpha, Char.isUpper, Char.isLower, Char.isDigit,
      UInt32.le_iff_toNat_le] using h
  simp only [isWhite, Bool.or_eq_false_iff, Bool.and_eq_false_iff, beq_eq_false_iff_ne,
    decide_eq_false_iff_not]
  omega

lemma isInlineBlank_of_isWhite {c : Char} (h : isWhite c = false) : isInlineBlank c = false := by
  have hspace : c ≠ ' ' := by
    rintro rfl
    exact absurd h (by decide)
  have htab : c ≠ '\t' := by
    rintro rfl
    exact absurd h (by decide)
  simp [isInlineBlank, hspace, htab]

lemma isAlphanum_of_isDigit {c : Char} (h : c.isDigit = true) : c.isAlphanum = true := by
  simp [Char.isAlphanum, h]

lemma toUpper_of_isDigit {c : Char} (h : c.isDigit = true) : c.toUpper = c := by
  have hc := Numeral.toNat_of_isDigit h
  apply Char.toUpper_eq_of_not_isLower
  simp only [Char.isLower, UInt32.le_iff_toNat_le, Bool.and_eq_true, decide_eq_true_eq]
  have hlow : ¬ 97 ≤ c.toNat := by omega
  exact fun hlower => hlow hlower.1

namespace Numeral

lemma isDigit_of_mem {n : ℕ} {c : Char} (h : c ∈ digits n) : isDigit c = true := by
  have hc := toNat_of_isDigit (isDigit_of_mem_digits h)
  have hlt : c.toNat - 48 < 10 := by omega
  simp [isDigit, digitValue, hc, hlt]

lemma not_mem_digits {n : ℕ} {c : Char} (h : c.isDigit = false) : c ∉ digits n := by
  intro hc
  simp [isDigit_of_mem_digits hc] at h

lemma argument?_digits {n : ℕ} (h : n < UInt32.size) :
    argument? (digits n) = some (UInt32.ofNat n) := by
  have hn := natural?_digits n
  have hdigit : ∀ c ∈ digits n, c.isDigit = true := fun c => isDigit_of_mem_digits
  unfold argument?
  split
  · next s hs => simp [hs, Char.isDigit] at hdigit
  · next s hs => simp [hs, Char.isDigit] at hdigit
  · simp [hn, h]

end Numeral

/-! ### Reading a statement -/

namespace Assembly.Statement

variable {s : List Char} {vs : List UInt32} {l : Layout}

def listChars (vs : List UInt32) : List Char :=
  joinWith [',', ' '] (vs.map fun v => Numeral.digits v.toNat)

/-- A suffix as it is written, or nothing. -/
def ending : Option Layout → List Char
  | none => []
  | some l => Instruction.layoutSuffix l

lemma suffix?_ending (l : Option Layout) (s : List Char) :
    suffix? (ending l ++ '(' :: s) = some (l.map Layout.code, '(' :: s) := by
  rcases l with _ | l
  · rfl
  · have hdigit : ∀ c ∈ Numeral.digits l.code, Numeral.isDigit c = true := fun c =>
      Numeral.isDigit_of_mem
    have hstop : Numeral.isDigit '(' = false := by decide
    have hlt : l.code < 256 := by
      have := l.code_lt
      omega
    simp [suffix?, ending, Instruction.layoutSuffix, List.takeWhile_append_of_pos hdigit,
      List.dropWhile_append_of_pos hdigit, hstop, Numeral.natural?_digits, hlt]

lemma takeWhile_ending (l : Option Layout) (s : List Char) :
    (ending l ++ '(' :: s).takeWhile isNameChar = [] := by
  have hdot : isNameChar '.' = false := by decide
  have hopen : isNameChar '(' = false := by decide
  rcases l with _ | l
  · simp [ending, hopen]
  · simp [ending, Instruction.layoutSuffix, hdot]

lemma dropWhile_ending (l : Option Layout) (s : List Char) :
    (ending l ++ '(' :: s).dropWhile isNameChar = ending l ++ '(' :: s := by
  have hsplit := List.takeWhile_append_dropWhile (p := isNameChar) (l := ending l ++ '(' :: s)
  rwa [takeWhile_ending, List.nil_append] at hsplit

lemma mem_listChars {c : Char} (h : c ∈ listChars vs) : c = ',' ∨ c = ' ' ∨ c.isDigit = true := by
  rcases mem_joinWith h with hc | ⟨piece, hp, hc⟩
  · rcases List.mem_cons.mp hc with rfl | hc
    · exact .inl rfl
    · exact .inr (.inl (List.mem_singleton.mp hc))
  · obtain ⟨v, -, rfl⟩ := List.mem_map.mp hp
    exact .inr (.inr (Numeral.isDigit_of_mem_digits hc))

lemma isInlineBlank_of_mem_digits {n : ℕ} {c : Char} (h : c ∈ Numeral.digits n) :
    isInlineBlank c = false :=
  isInlineBlank_of_isWhite
    (isWhite_of_isAlphanum (isAlphanum_of_isDigit (Numeral.isDigit_of_mem_digits h)))

lemma argument?_digits (v : UInt32) :
    Numeral.argument? (trim isInlineBlank (Numeral.digits v.toNat)) = some v := by
  have hnone : ∀ c ∈ Numeral.digits v.toNat, isInlineBlank c = false := fun c =>
    isInlineBlank_of_mem_digits
  rw [trim_of_none hnone, Numeral.argument?_digits v.toNat_lt_size, UInt32.ofNat_toNat]

lemma argument?_blank_digits (v : UInt32) :
    Numeral.argument? (trim isInlineBlank (' ' :: Numeral.digits v.toNat)) = some v :=
  argument?_digits v

lemma list?_listChars (h : vs ≠ []) : list? (listChars vs) = some vs := by
  obtain ⟨v, rest, rfl⟩ := List.exists_cons_of_ne_nil h
  have hcomma : ∀ q ∈ (v :: rest).map (fun v => Numeral.digits v.toNat), ',' ∉ q := by
    intro q hq
    obtain ⟨u, -, rfl⟩ := List.mem_map.mp hq
    exact Numeral.not_mem_digits (by decide)
  have hsplit : splitOn ',' (listChars (v :: rest)) =
      Numeral.digits v.toNat :: rest.map fun u => ' ' :: Numeral.digits u.toNat := by
    rw [listChars, List.map_cons, splitOn_joinWith (by decide) hcomma, List.map_map]
    rfl
  have hrest : (rest.map fun u => ' ' :: Numeral.digits u.toNat).mapM
      (fun piece => Numeral.argument? (trim isInlineBlank piece)) = some rest := by
    clear hsplit hcomma h
    induction rest with
    | nil => rfl
    | cons u rest ih => simp [argument?_blank_digits, ih]
  have hne : trim isInlineBlank (listChars (v :: rest)) ≠ [] := by
    obtain ⟨c, hc⟩ := List.exists_mem_of_ne_nil _ (Numeral.digits_ne_nil v.toNat)
    have hmem : c ∈ listChars (v :: rest) := by
      cases rest <;> simp [listChars, joinWith, hc]
    exact trim_ne_nil hmem (isInlineBlank_of_mem_digits hc)
  rw [list?, if_neg hne, hsplit, List.mapM_cons, argument?_digits, hrest]
  rfl

/-- A statement reads back whose name is made of letters and digits. -/
lemma read?_eq {c : Char} {name list : List Char} (l : Option Layout)
    (hname : ∀ d ∈ c :: name, d.isAlphanum = true) (hlist : list? list = some vs) :
    read? (c :: name ++ ending l ++ '(' :: list ++ [')']) =
      some ⟨c :: name, l.map Layout.code, some vs⟩ := by
  have hblank : isInlineBlank c = false :=
    isInlineBlank_of_isWhite (isWhite_of_isAlphanum (hname c (by simp)))
  have htrim : trim isInlineBlank (c :: name ++ ending l ++ '(' :: list ++ [')']) =
      c :: name ++ (ending l ++ '(' :: (list ++ [')'])) := by
    have hends := trim_of_ends (s := name ++ ending l ++ '(' :: list) hblank
      (show isInlineBlank ')' = false by decide)
    simpa using hends
  have hkeep : ∀ d ∈ c :: name, isNameChar d = true := hname
  have hopen : trimLeft isInlineBlank ('(' :: (list ++ [')'])) = '(' :: (list ++ [')']) := by
    rw [trimLeft_cons]
    rfl
  have harguments : arguments? ('(' :: (list ++ [')'])) = some (some vs) := by
    simp [arguments?, hlist]
  simp only [read?, htrim, List.takeWhile_append_of_pos hkeep, List.dropWhile_append_of_pos hkeep,
    takeWhile_ending, dropWhile_ending, List.append_nil, suffix?_ending, Option.bind_some, hopen,
    harguments, reduceCtorEq, if_false]
  rfl

/-- The layout that an instruction as it is written is forced into, unless its operation is meant
for it. -/
def forced? (i : Instruction) : Option Layout :=
  match i.operation? with
  | some o => if o.layout = i.layout then none else some i.layout
  | none => some i.layout

def nameOf (i : Instruction) : List Char :=
  match i.operation? with
  | some o => o.mnemonic.toList
  | none => 'O' :: 'P' :: Numeral.digits i.opcode.toNat

def ofInstruction (i : Instruction) : Statement :=
  ⟨nameOf i, (forced? i).map Layout.code, some i.fields⟩

lemma chars_eq (i : Instruction) :
    i.chars = nameOf i ++ ending (forced? i) ++ '(' :: listChars i.fields ++ [')'] := by
  rcases ho : i.operation? with _ | o
  · simp [Instruction.chars, Instruction.head, nameOf, forced?, ending, listChars, ho]
  · by_cases hl : o.layout = i.layout
    · simp [Instruction.chars, Instruction.head, nameOf, forced?, ending, listChars, ho, hl]
    · simp [Instruction.chars, Instruction.head, nameOf, forced?, ending, listChars, ho, hl]

lemma mnemonic_chars (o : Operation) :
    ∀ c ∈ o.mnemonic.toList, c.isAlphanum = true ∧ c.toUpper = c := by
  have hall : o.mnemonic.toList.all (fun c => c.isAlphanum && c.toUpper == c) = true := by
    cases o <;> decide
  intro c hc
  simpa using List.all_eq_true.mp hall c hc

lemma name_chars (i : Instruction) : ∀ c ∈ nameOf i, c.isAlphanum = true ∧ c.toUpper = c := by
  intro c hc
  rcases ho : i.operation? with _ | o
  · simp only [nameOf, ho, List.mem_cons] at hc
    rcases hc with rfl | rfl | hc
    · decide
    · decide
    · have hdigit := Numeral.isDigit_of_mem_digits hc
      exact ⟨isAlphanum_of_isDigit hdigit, toUpper_of_isDigit hdigit⟩
  · simp only [nameOf, ho] at hc
    exact mnemonic_chars o c hc

lemma nameOf_ne_nil (i : Instruction) : nameOf i ≠ [] := by
  have hmnemonic : ∀ o : Operation, o.mnemonic.toList ≠ [] := by
    intro o
    cases o <;> decide
  rcases ho : i.operation? with _ | o
  · simp [nameOf, ho]
  · simpa [nameOf, ho] using hmnemonic o

lemma fields_ne_nil (i : Instruction) : i.fields ≠ [] := by
  cases i <;> simp [Instruction.fields]

/-- **An instruction reads back as it is written.** -/
theorem read?_chars (i : Instruction) : read? i.chars = some (ofInstruction i) := by
  obtain ⟨c, name, hname⟩ := List.exists_cons_of_ne_nil (nameOf_ne_nil i)
  have hchars : ∀ d ∈ c :: name, d.isAlphanum = true := by
    rw [← hname]
    exact fun d hd => (name_chars i d hd).1
  rw [chars_eq, ofInstruction, hname]
  exact read?_eq (forced? i) hchars (list?_listChars (fields_ne_nil i))

/-- Written with the layout it is meant for, with another one, and without an operation. -/
example : [0x4B060003, 0x45120005, 0xBF123456].map (fun w => (Instruction.decode w).text) =
    ["MOVI(0, 6, 3)", "ADD.t1(1, 2, 5)", "OP63.t2(1193046)"] := by
  decide +kernel

/-! ### Resolving a statement -/

lemma upperName_ofInstruction (i : Instruction) : (ofInstruction i).upperName = nameOf i := by
  have hid : ∀ c ∈ nameOf i, c.toUpper = c := fun c hc => (name_chars i c hc).2
  exact (List.map_congr_left hid).trans (List.map_id' _)

/-- No mnemonic begins like a number of an opcode. -/
lemma ofMnemonic?_opcode (s : List Char) :
    Operation.ofMnemonic? (String.ofList ('O' :: 'P' :: s)) = none := by
  have hall : Operation.all.all (fun o => o.mnemonic.toList.take 2 != ['O', 'P']) = true := by
    decide
  rw [Operation.ofMnemonic?, List.find?_eq_none]
  intro o ho heq
  have hne := List.all_eq_true.mp hall o ho
  simp [eq_of_beq heq] at hne

lemma code_of_operation? {i : Instruction} {o : Operation} (h : i.operation? = some o) :
    o.code = i.opcode := by
  have hnodup : Operation.all.Nodup := by decide
  have hall : Operation.all[i.opcode.toNat]? = some o := h
  obtain ⟨hk, rfl⟩ := List.getElem?_eq_some_iff.mp hall
  rw [Operation.code, hnodup.idxOf_getElem, UInt8.ofNat_toNat]

lemma opcode?_ofInstruction {i : Instruction} (h : i.opcode.toNat < 64) :
    (ofInstruction i).opcode? = some i.opcode := by
  rcases ho : i.operation? with _ | o
  · have hname : (ofInstruction i).upperName = 'O' :: 'P' :: Numeral.digits i.opcode.toNat := by
      simp only [upperName_ofInstruction, nameOf, ho]
    simp only [opcode?, hname, ofMnemonic?_opcode, Numeral.natural?_digits, Option.bind_some, h,
      if_true, UInt8.ofNat_toNat]
  · have hname : (ofInstruction i).upperName = o.mnemonic.toList := by
      simp only [upperName_ofInstruction, nameOf, ho]
    simp only [opcode?, hname, String.ofList_toList, Operation.ofMnemonic?_mnemonic,
      code_of_operation? ho]

lemma layout?_ofInstruction (i : Instruction) :
    (ofInstruction i).layout? i.opcode = some i.layout := by
  rcases ho : i.operation? with _ | o
  · simp [layout?, ofInstruction, forced?, ho]
  · have hcode : Operation.ofCode? i.opcode = some o := ho
    by_cases hl : o.layout = i.layout
    · simp [layout?, ofInstruction, forced?, ho, hcode, hl]
    · simp [layout?, ofInstruction, forced?, ho, hl]

lemma values_ofInstruction (i : Instruction) (l : Layout) :
    (ofInstruction i).values l = i.fields := by
  obtain ⟨v, vs, h⟩ := List.exists_cons_of_ne_nil (fields_ne_nil i)
  simp [values, ofInstruction, h]

lemma resolve_ofInstruction {i : Instruction} (h : i.Fits) (text : String) :
    (ofInstruction i).resolve text = .ok i := by
  refine resolve_eq_ok_iff.mpr
    ⟨i.opcode, i.layout, opcode?_ofInstruction h.opcode, layout?_ofInstruction i, ?_, ?_⟩
  · rw [values_ofInstruction]
    exact h.fields
  · rw [values_ofInstruction, Instruction.ofOperands_fields]

end Assembly.Statement

/-- **An instruction that a word can hold is what it is written as.** -/
theorem Assembly.means_chars {i : Instruction} (h : i.Fits) : Means i.chars i :=
  means_iff.mpr ⟨_, Statement.read?_chars i, Statement.resolve_ofInstruction h _⟩

end CellMachine
