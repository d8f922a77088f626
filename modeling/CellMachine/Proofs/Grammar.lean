import CellMachine.Proofs.Digits
import CellMachine.Proofs.Statements

/-!
The grammar of statements. A statement is a name, perhaps a suffix, and perhaps a list of numerals in
parentheses, with blanks at its ends, before the list and around what stands in the list. The name
and the suffix settle the opcode and the layout, and the numerals fill the fields of the layout.
What the assembler accepts as a statement is what this grammar derives.
-/

namespace CellMachine

open Text

namespace Assembly

open Numeral (Argument Spells)

/-! ### The grammar -/

def Blank (s : List Char) : Prop := ∀ c ∈ s, c = ' ' ∨ c = '\t'

inductive Numerals : List Char → List UInt32 → Prop where
  | one {s : List Char} {v : UInt32} (numeral : Argument s v) : Numerals s [v]
  | cons {s a b t : List Char} {v : UInt32} {vs : List UInt32} (numeral : Argument s v)
    (before : Blank a) (after : Blank b) (rest : Numerals t vs) :
    Numerals (s ++ a ++ ',' :: (b ++ t)) (v :: vs)

/-- Numerals with blanks around them, or nothing but blanks. -/
inductive Padded : List Char → List UInt32 → Prop where
  | blank {s : List Char} (blank : Blank s) : Padded s []
  | numerals {a s b : List Char} {vs : List UInt32} (before : Blank a) (after : Blank b)
    (numerals : Numerals s vs) : Padded (a ++ s ++ b) vs

/-- A list in parentheses, or none. -/
inductive Listed : List Char → Option (List UInt32) → Prop where
  | absent : Listed [] none
  | present {s : List Char} {vs : List UInt32} (inside : Padded s vs) :
    Listed ('(' :: (s ++ [')'])) (some vs)

inductive Suffixed : List Char → Option ℕ → Prop where
  | absent : Suffixed [] none
  | present {t : Char} {s : List Char} {n : ℕ} (letter : t = 't' ∨ t = 'T')
    (digits : Spells 10 s n) : Suffixed ('.' :: t :: s) (some n)

inductive Form : List Char → Statement → Prop where
  | parts {a name suffix b list d : List Char} {number : Option ℕ}
    {arguments : Option (List UInt32)} (start : Blank a) (nonempty : name ≠ [])
    (chars : ∀ c ∈ name, c.isAlphanum = true) (suffixed : Suffixed suffix number) (gap : Blank b)
    (listed : Listed list arguments) (finish : Blank d) :
    Form (a ++ (name ++ (suffix ++ (b ++ list))) ++ d) ⟨name, number, arguments⟩

variable {a b s t : List Char} {v : UInt32} {vs : List UInt32} {n : ℕ}

lemma blank_iff : Blank s ↔ ∀ c ∈ s, isInlineBlank c = true := by
  simp [Blank, isInlineBlank]

lemma Blank.append (ha : Blank a) (hb : Blank b) : Blank (a ++ b) := fun c hc =>
  (List.mem_append.mp hc).elim (ha c) (hb c)

lemma blank_trim (s : List Char) :
    ∃ a b, s = a ++ trim isInlineBlank s ++ b ∧ Blank a ∧ Blank b := by
  obtain ⟨a, b, hs, ha, hb⟩ := exists_trim isInlineBlank s
  exact ⟨a, b, hs, blank_iff.mpr ha, blank_iff.mpr hb⟩

lemma trim_pad (ha : Blank a) (hb : Blank b) :
    trim isInlineBlank (a ++ s ++ b) = trim isInlineBlank s :=
  trim_append (blank_iff.mp ha) (blank_iff.mp hb)

lemma isAlphanum_of_digit {base d : ℕ} {c : Char} (hb : base ≤ 16) (h : Numeral.Digit base c d) :
    c.isAlphanum = true := by
  obtain ⟨hlt, rfl | rfl⟩ := h
  · have hd : d < 16 := by omega
    interval_cases d <;> decide
  · have hd : d < 16 := by omega
    interval_cases d <;> decide

lemma isAlphanum_of_spells {base : ℕ} (hb : base ≤ 16) (h : Spells base s n) :
    ∀ c ∈ s, c.isAlphanum = true := by
  intro c hc
  obtain ⟨d, hd⟩ := h.digit c hc
  exact isAlphanum_of_digit hb hd

lemma isAlphanum_of_argument (h : Argument s v) : ∀ c ∈ s, c.isAlphanum = true := by
  rcases h with h | ⟨t, rfl | rfl, h⟩
  · exact isAlphanum_of_spells (by omega) h
  · simpa using isAlphanum_of_spells (by omega) h
  · simpa using isAlphanum_of_spells (by omega) h

lemma argument_ne_nil (h : Argument s v) : s ≠ [] := by
  rcases h with h | ⟨t, rfl | rfl, -⟩
  · exact h.1
  · simp
  · simp

lemma not_blank_of_isAlphanum {c : Char} (h : c.isAlphanum = true) : isInlineBlank c = false :=
  isInlineBlank_of_isWhite (isWhite_of_isAlphanum h)

lemma argument?_trim_eq_some_iff :
    Numeral.argument? (trim isInlineBlank s) = some v ↔
      ∃ a t b, s = a ++ t ++ b ∧ Blank a ∧ Blank b ∧ Argument t v := by
  rw [Numeral.argument?_eq_some_iff]
  constructor
  · intro h
    obtain ⟨a, b, hs, ha, hb⟩ := blank_trim s
    exact ⟨a, _, b, hs, ha, hb, h⟩
  · rintro ⟨a, t, b, rfl, ha, hb, h⟩
    have hnone : ∀ c ∈ t, isInlineBlank c = false := fun c hc =>
      not_blank_of_isAlphanum (isAlphanum_of_argument h c hc)
    rwa [trim_pad ha hb, trim_of_none hnone]

/-! ### Lists -/

def pieces? (s : List Char) : Option (List UInt32) :=
  (splitOn ',' s).mapM fun piece => Numeral.argument? (trim isInlineBlank piece)

lemma not_mem_blank {c : Char} (h : isInlineBlank c = false) (ha : Blank a) : c ∉ a := by
  intro hc
  simp [blank_iff.mp ha c hc] at h

lemma pieces?_of_numerals (h : Numerals s vs) :
    ∀ {a b}, Blank a → Blank b → pieces? (a ++ s ++ b) = some vs := by
  have hcomma : ∀ {s v}, Argument s v → ',' ∉ s := by
    intro s v hs hc
    exact absurd (isAlphanum_of_argument hs _ hc) (by decide)
  have hnot : ∀ {a}, Blank a → ',' ∉ a := fun ha => not_mem_blank (by decide) ha
  induction h with
  | @one s v numeral =>
    intro a b ha hb
    have hpiece : Numeral.argument? (trim isInlineBlank (a ++ s ++ b)) = some v :=
      argument?_trim_eq_some_iff.mpr ⟨a, s, b, rfl, ha, hb, numeral⟩
    have hsplit : splitOn ',' (a ++ s ++ b) = [a ++ s ++ b] :=
      splitOn_of_not_mem (by simp [hnot ha, hnot hb, hcomma numeral])
    rw [pieces?, hsplit, List.mapM_cons, hpiece]
    rfl
  | @cons s a' b' t v vs numeral before after rest ih =>
    intro a b ha hb
    have hpiece : Numeral.argument? (trim isInlineBlank (a ++ s ++ a')) = some v :=
      argument?_trim_eq_some_iff.mpr ⟨a, s, a', rfl, ha, before, numeral⟩
    have hsplit : splitOn ',' (a ++ (s ++ a' ++ ',' :: (b' ++ t)) ++ b) =
        (a ++ s ++ a') :: splitOn ',' (b' ++ t ++ b) := by
      rw [← splitOn_append (by simp [hnot ha, hnot before, hcomma numeral])]
      simp
    have hrest : pieces? (b' ++ t ++ b) = some vs := ih after hb
    rw [pieces?] at hrest ⊢
    rw [hsplit, List.mapM_cons, hpiece, hrest]
    rfl

lemma numerals_of_pieces? (h : pieces? s = some vs) :
    ∃ a t b, s = a ++ t ++ b ∧ Blank a ∧ Blank b ∧ Numerals t vs := by
  -- The text shrinks by the piece before its first comma.
  induction hlength : s.length using Nat.strong_induction_on generalizing s vs with
  | _ length ih =>
    by_cases hcomma : ',' ∈ s
    · obtain ⟨p, q, rfl, hp⟩ := List.eq_append_cons_of_mem hcomma
      rw [pieces?, splitOn_append hp, List.mapM_cons] at h
      obtain ⟨v, hv, h⟩ := Option.bind_eq_some_iff.mp h
      obtain ⟨ws, hws, h⟩ := Option.bind_eq_some_iff.mp h
      obtain rfl : v :: ws = vs := Option.some.inj h
      obtain ⟨a, t, b, rfl, ha, hb, hargument⟩ := argument?_trim_eq_some_iff.mp hv
      have hshorter : q.length < length := by
        rw [← hlength]
        simp
        omega
      obtain ⟨a', t', b', rfl, ha', hb', hnumerals⟩ := ih _ hshorter hws rfl
      exact ⟨a, t ++ b ++ ',' :: (a' ++ t'), b', by simp, ha, hb',
        .cons hargument hb ha' hnumerals⟩
    · rw [pieces?, splitOn_of_not_mem hcomma, List.mapM_cons] at h
      obtain ⟨v, hv, h⟩ := Option.bind_eq_some_iff.mp h
      obtain rfl : [v] = vs := Option.some.inj h
      obtain ⟨a, t, b, rfl, ha, hb, hargument⟩ := argument?_trim_eq_some_iff.mp hv
      exact ⟨a, t, b, rfl, ha, hb, .one hargument⟩

lemma exists_alphanum_of_numerals (h : Numerals s vs) : ∃ c ∈ s, c.isAlphanum = true := by
  cases h with
  | one numeral =>
    obtain ⟨c, hc⟩ := List.exists_mem_of_ne_nil _ (argument_ne_nil numeral)
    exact ⟨c, hc, isAlphanum_of_argument numeral c hc⟩
  | cons numeral before after rest =>
    obtain ⟨c, hc⟩ := List.exists_mem_of_ne_nil _ (argument_ne_nil numeral)
    exact ⟨c, by simp [hc], isAlphanum_of_argument numeral c hc⟩

/-- **What is read as a list is what the grammar allows in parentheses.** -/
theorem list?_eq_some_iff : Statement.list? s = some vs ↔ Padded s vs := by
  rw [Statement.list?]
  split
  · next hnil =>
    constructor
    · intro h
      obtain rfl : [] = vs := Option.some.inj h
      obtain ⟨a, b, hs, ha, hb⟩ := blank_trim s
      rw [hnil, List.append_nil] at hs
      exact .blank (hs ▸ ha.append hb)
    · intro h
      cases h with
      | blank _ => rfl
      | @numerals a s b vs before after numerals =>
        obtain ⟨c, hc, halnum⟩ := exists_alphanum_of_numerals numerals
        rw [trim_pad before after] at hnil
        exact absurd hnil (trim_ne_nil hc (not_blank_of_isAlphanum halnum))
  · next hne =>
    constructor
    · intro h
      obtain ⟨a, t, b, rfl, ha, hb, hnumerals⟩ := numerals_of_pieces? h
      exact .numerals ha hb hnumerals
    · intro h
      cases h with
      | blank blank =>
        have hnil := trim_pad (s := []) blank (b := []) (by simp [Blank])
        simp only [List.append_nil, trim_nil] at hnil
        exact absurd hnil hne
      | numerals before after numerals => exact pieces?_of_numerals numerals before after

lemma arguments?_eq_some_iff {arguments : Option (List UInt32)} :
    Statement.arguments? s = some arguments ↔ Listed s arguments := by
  constructor
  · intro h
    unfold Statement.arguments? at h
    split at h
    · obtain rfl := Option.some.inj h
      exact .absent
    · next rest =>
      split at h
      · next hlast =>
        obtain ⟨vs, hvs, rfl⟩ := Option.map_eq_some_iff.mp h
        have hrest : rest = rest.dropLast ++ [')'] := (List.dropLast_append_getLast? _ hlast).symm
        rw [hrest]
        exact .present (list?_eq_some_iff.mp hvs)
      · cases h
    · cases h
  · intro h
    cases h with
    | absent => rfl
    | present inside =>
      simp [Statement.arguments?, list?_eq_some_iff.mpr inside]

/-! ### Names and suffixes -/

lemma takeWhile_of_stop {p : Char → Bool} (ha : ∀ c ∈ a, p c = true)
    (hb : ∀ c ∈ b.head?, p c = false) : (a ++ b).takeWhile p = a ∧ (a ++ b).dropWhile p = b := by
  rw [List.takeWhile_append_of_pos ha, List.dropWhile_append_of_pos ha]
  cases b with
  | nil => simp
  | cons c b => simp [hb c rfl]

lemma isDigit_of_spells (h : Spells 10 s n) : ∀ c ∈ s, Numeral.isDigit c = true := by
  intro c hc
  obtain ⟨d, hd⟩ := h.digit c hc
  simp [Numeral.isDigit, (Numeral.digitValue_eq_some_iff (by omega)).mpr hd]

lemma suffixed_of_suffix? {rest : List Char} {number : Option ℕ}
    (h : Statement.suffix? s = some (number, rest)) :
    (∃ front, s = front ++ rest ∧ Suffixed front number) ∧ ∀ m ∈ number, m < 256 := by
  have hnumber : ∀ {t : Char} {u : List Char}, t = 't' ∨ t = 'T' →
      ((Numeral.natural? 10 (u.takeWhile Numeral.isDigit)).bind fun m =>
        if m < 256 then some (some m, u.dropWhile Numeral.isDigit) else none) =
          some (number, rest) →
      (∃ front, '.' :: t :: u = front ++ rest ∧ Suffixed front number) ∧
        ∀ m ∈ number, m < 256 := by
    intro t u ht hu
    obtain ⟨m, hm, hu⟩ := Option.bind_eq_some_iff.mp hu
    split at hu
    · next hlt =>
      obtain ⟨rfl, rfl⟩ := Prod.mk.inj (Option.some.inj hu)
      have hdigits := (Numeral.natural?_eq_some_iff (by omega)).mp hm
      exact ⟨⟨_, by simp, .present ht hdigits⟩, by simpa using hlt⟩
    · cases hu
  unfold Statement.suffix? at h
  split at h
  · exact hnumber (.inl rfl) h
  · exact hnumber (.inr rfl) h
  · obtain ⟨rfl, rfl⟩ := Prod.mk.inj (Option.some.inj h)
    exact ⟨⟨[], rfl, .absent⟩, by simp⟩

/-- A suffix is read where neither a digit nor a further suffix follows. -/
lemma suffix?_of_suffixed {suffix rest : List Char} {number : Option ℕ}
    (h : Suffixed suffix number) (hlt : ∀ m ∈ number, m < 256)
    (hrest : ∀ c ∈ rest.head?, Numeral.isDigit c = false ∧ c ≠ '.') :
    Statement.suffix? (suffix ++ rest) = some (number, rest) := by
  cases h with
  | absent =>
    unfold Statement.suffix?
    split
    · next hdot => exact absurd rfl (hrest '.' (congrArg List.head? hdot)).2
    · next hdot => exact absurd rfl (hrest '.' (congrArg List.head? hdot)).2
    · rfl
  | @present t s n letter digits =>
    obtain ⟨htake, hdrop⟩ := takeWhile_of_stop (isDigit_of_spells digits) fun c hc => (hrest c hc).1
    have hn : n < 256 := hlt n rfl
    rcases letter with rfl | rfl
    all_goals
      simp only [Statement.suffix?, List.cons_append, htake, hdrop,
        (Numeral.natural?_eq_some_iff (by omega)).mpr digits, Option.bind_some, hn, if_true]

/-! ### Statements -/

/-- What follows the suffix begins with a blank or a parenthesis. -/
lemma head?_of_listed {list : List Char} {arguments : Option (List UInt32)} (hb : Blank b)
    (hl : Listed list arguments) : ∀ c ∈ (b ++ list).head?, c = ' ' ∨ c = '\t' ∨ c = '(' := by
  intro c hc
  cases b with
  | nil =>
    cases hl with
    | absent => cases hc
    | present inside =>
      obtain rfl := Option.some.inj hc
      exact .inr (.inr rfl)
  | cons d b =>
    obtain rfl := Option.some.inj hc
    exact (hb d (by simp)).imp_right .inl

lemma trimLeft_of_listed {list : List Char} {arguments : Option (List UInt32)} (hb : Blank b)
    (hl : Listed list arguments) : trimLeft isInlineBlank (b ++ list) = list := by
  refine (takeWhile_of_stop (blank_iff.mp hb) ?_).2
  cases hl with
  | absent => simp
  | present inside => simp [isInlineBlank]

lemma read?_of_parts {name suffix list : List Char} {number : Option ℕ}
    {arguments : Option (List UInt32)} (nonempty : name ≠ [])
    (chars : ∀ c ∈ name, c.isAlphanum = true) (suffixed : Suffixed suffix number)
    (hlt : ∀ m ∈ number, m < 256) (gap : Blank b) (listed : Listed list arguments)
    (htrim : trim isInlineBlank s = name ++ (suffix ++ (b ++ list))) :
    Statement.read? s = some ⟨name, number, arguments⟩ := by
  have hhead := head?_of_listed gap listed
  have hname : ∀ c ∈ (suffix ++ (b ++ list)).head?, isNameChar c = false := by
    intro c hc
    cases suffixed with
    | absent => rcases hhead c hc with rfl | rfl | rfl <;> decide
    | present =>
      obtain rfl := Option.some.inj hc
      decide
  have hsuffix : Statement.suffix? (suffix ++ (b ++ list)) = some (number, b ++ list) := by
    refine suffix?_of_suffixed suffixed hlt fun c hc => ?_
    rcases hhead c hc with rfl | rfl | rfl <;> decide
  obtain ⟨htake, hdrop⟩ := takeWhile_of_stop (p := isNameChar) chars hname
  simp only [Statement.read?, htrim, htake, hdrop, nonempty, if_false, hsuffix, Option.bind_some,
    trimLeft_of_listed gap listed, arguments?_eq_some_iff.mpr listed, Option.map_some]

lemma getLast?_of_suffixed {name suffix : List Char} {number : Option ℕ}
    (chars : ∀ c ∈ name, c.isAlphanum = true) (h : Suffixed suffix number) :
    ∀ c ∈ (name ++ suffix).getLast?, c.isAlphanum = true := by
  intro c hc
  cases h with
  | absent =>
    rw [List.append_nil] at hc
    exact chars c (List.mem_of_getLast? hc)
  | @present t s n letter digits =>
    have hsplit : name ++ '.' :: t :: s = (name ++ ['.', t]) ++ s := by simp
    rw [hsplit, List.getLast?_append_of_ne_nil _ digits.1] at hc
    exact isAlphanum_of_spells (by omega) digits c (List.mem_of_getLast? hc)

/-- **What is read as a statement has the form of one**, with a suffix below 256. -/
theorem read?_eq_some_iff {st : Statement} :
    Statement.read? s = some st ↔ Form s st ∧ ∀ m ∈ st.suffix, m < 256 := by
  constructor
  · intro h
    unfold Statement.read? at h
    simp only at h
    split at h
    · cases h
    next hname =>
    obtain ⟨⟨number, rest⟩, hsuffix, h⟩ := Option.bind_eq_some_iff.mp h
    obtain ⟨arguments, harguments, rfl⟩ := Option.map_eq_some_iff.mp h
    obtain ⟨a, d, hs, ha, hd⟩ := blank_trim s
    obtain ⟨⟨suffix, hfront, hsuffixed⟩, hlt⟩ := suffixed_of_suffix? hsuffix
    have hgap : Blank (rest.takeWhile isInlineBlank) :=
      blank_iff.mpr fun c hc => List.mem_takeWhile_imp hc
    have hsplit : trim isInlineBlank s = (trim isInlineBlank s).takeWhile isNameChar ++
        (suffix ++ (rest.takeWhile isInlineBlank ++ trimLeft isInlineBlank rest)) := by
      rw [trimLeft, List.takeWhile_append_dropWhile, ← hfront, List.takeWhile_append_dropWhile]
    have hform := Form.parts ha hname (fun c hc => List.mem_takeWhile_imp hc) hsuffixed hgap
      (arguments?_eq_some_iff.mp harguments) hd
    rw [← hsplit, ← hs] at hform
    exact ⟨hform, hlt⟩
  · rintro ⟨hform, hlt⟩
    obtain @⟨a, name, suffix, b, list, d, number, arguments, ha, hne, hchars, hsuffixed, hb, hlist,
      hd⟩ := hform
    obtain ⟨c, name, rfl⟩ := List.exists_cons_of_ne_nil hne
    have hc : isInlineBlank c = false := not_blank_of_isAlphanum (hchars c (by simp))
    -- Blanks before a list that is absent belong to the end of the text.
    cases hlist with
    | absent =>
      refine read?_of_parts (b := []) hne hchars hsuffixed hlt (by simp [Blank]) .absent ?_
      have hpad : a ++ (c :: name ++ (suffix ++ (b ++ []))) ++ d =
          a ++ (c :: name ++ suffix) ++ (b ++ d) := by simp
      have hlast : ∀ e ∈ (c :: name ++ suffix).getLast?, isInlineBlank e = false := fun e he =>
        not_blank_of_isAlphanum (getLast?_of_suffixed hchars hsuffixed e he)
      rw [hpad, trim_pad ha (hb.append hd), trim_eq_self (by simpa using hc) hlast]
      simp
    | @present t vs inside =>
      refine read?_of_parts hne hchars hsuffixed hlt hb (.present inside) ?_
      have hends := trim_of_ends (s := name ++ (suffix ++ (b ++ '(' :: t))) hc
        (show isInlineBlank ')' = false by decide)
      have hshape : c :: name ++ (suffix ++ (b ++ '(' :: (t ++ [')']))) =
          c :: (name ++ (suffix ++ (b ++ '(' :: t))) ++ [')'] := by simp
      rw [trim_pad ha hd, hshape, hends]

/-! ### What a statement means -/

section Values

variable {st : Statement} {layout : Layout}

end Values

/-- A numeral that no word can hold is not read as the digit that it begins with. -/
example : instruction "JMP(0x100000000)".toList = .error (.unreadable "JMP(0x100000000)") := by
  decide +kernel

end Assembly

end CellMachine
