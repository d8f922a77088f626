import Mathlib
import CellMachine.Proofs.Markers
import CellMachine.Proofs.ProgramImages

/-!
The search for markers. Texts are put in lower case as a whole: one character can become two, and
the form of a sigma depends on what stands around it. But beyond ASCII only U+0130 and U+212A have a
letter of ASCII in their lower case, an `i` and a `k`. A word without these two is found in the
lower case of a text exactly where it stands in the text, in small letters or in capitals. The
markers are such words, so that no other line is taken for the header or for the boundary.
-/

namespace CellMachine

namespace Text

variable {earlier later s word : List Char} {c d l : Char}

/-! ### Letters of ASCII in lower case -/

lemma lt_of_isAlpha (hc : c.isAlpha = true) : c.toNat < 0x80 := by
  have hrange : 65 ≤ c.toNat ∧ c.toNat ≤ 90 ∨ 97 ≤ c.toNat ∧ c.toNat ≤ 122 := by
    simpa [Char.isAlpha, Char.isUpper, Char.isLower, UInt32.le_iff_toNat_le] using hc
  omega

lemma lt_of_isAlpha_ofNat {n : ℕ} (h : (Char.ofNat n).isAlpha = true) : n < 0x80 := by
  by_cases hn : n.isValidChar
  · have hlt := lt_of_isAlpha h
    rwa [Char.toNat_ofNat, if_pos hn] at hlt
  · rw [Char.ofNat, dif_neg hn] at h
    exact absurd h (by decide)

lemma toLower_of_beyond_ascii (hc : 0x80 ≤ c.toNat) : c.toLower = c := by
  apply Char.toLower_eq_of_not_isUpper
  intro hupper
  have hlt : c.toNat < 0x80 := lt_of_isAlpha (by simp [Char.isAlpha, hupper])
  omega

lemma toLower_eq_iff (hl : l.isLower = true) : c.toLower = l ↔ c = l ∨ c = l.toUpper := by
  constructor
  · rintro rfl
    rw [Char.toUpper_toLower_eq_toUpper]
    by_cases hc : c.isUpper = true
    · exact .inr (Char.toUpper_eq_of_not_isLower (Char.not_isLower_of_isUpper hc)).symm
    · exact .inl (Char.toLower_eq_of_not_isUpper hc).symm
  · have hself : l.toLower = l := Char.toLower_eq_of_not_isUpper (Char.not_isUpper_of_isLower hl)
    rintro (rfl | rfl)
    · exact hself
    · rw [Char.toLower_toUpper_eq_toLower, hself]

/-- The runs lead from beyond ASCII into ASCII at U+212A only. -/
lemma le_apply_of_covers {r : CaseRun} {n : ℕ} (hr : r ∈ lowerRuns) (hn : r.covers n = true) :
    0x80 ≤ r.apply n ∨ n = 0x212A ∧ r.apply n = 0x6B := by
  have hall : lowerRuns.all (fun r => 0x80 ≤ r.first + r.shift ||
      r.first == 0x212A && r.last == 0x212A && r.shift == -8383) = true := by decide
  have h := List.all_eq_true.mp hall r hr
  simp only [CaseRun.covers, Bool.and_eq_true, Bool.or_eq_true, decide_eq_true_eq,
    beq_iff_eq] at h hn
  simp only [CaseRun.apply]
  omega

lemma letter_of_mem_lowerChar (hc : 0x80 ≤ c.toNat) (hd : d.isAlpha = true)
    (h : d ∈ lowerChar c) : c = '\u0130' ∧ d = 'i' ∨ c = '\u212A' ∧ d = 'k' := by
  unfold lowerChar at h
  split_ifs at h with hascii hdotted
  · omega
  · refine .inl ⟨Char.toNat_inj.mp hdotted, ?_⟩
    rcases List.mem_pair.mp h with rfl | rfl
    · rfl
    · exact absurd hd (by decide)
  · split at h
    next r hr =>
      obtain rfl := List.mem_singleton.mp h
      have hcovers : r.covers c.toNat = true := by simpa using List.find?_some hr
      rcases le_apply_of_covers (List.mem_of_find?_eq_some hr) hcovers with hle | ⟨hkelvin, happly⟩
      · have hlt := lt_of_isAlpha_ofNat hd
        omega
      · rw [happly]
        exact .inr ⟨Char.toNat_inj.mp hkelvin, rfl⟩
    next =>
      obtain rfl := List.mem_singleton.mp h
      have hlt := lt_of_isAlpha hd
      omega

lemma lowerAt_sigma (earlier later : List Char) :
    lowerAt earlier 'Σ' later = ['ς'] ∨ lowerAt earlier 'Σ' later = ['σ'] := by
  rw [lowerAt, if_pos rfl]
  split_ifs <;> simp

/-- **Beyond ASCII, two characters have a letter of ASCII in their lower case**, whatever stands
around them. -/
theorem letter_mem_lowerAt_iff (hc : 0x80 ≤ c.toNat) (hd : d.isAlpha = true) :
    d ∈ lowerAt earlier c later ↔ c = '\u0130' ∧ d = 'i' ∨ c = '\u212A' ∧ d = 'k' := by
  constructor
  · intro h
    by_cases hsigma : c = 'Σ'
    · subst hsigma
      rcases lowerAt_sigma earlier later with hform | hform
      all_goals
        rw [hform, List.mem_singleton] at h
        subst h
        exact absurd hd (by decide)
    · rw [lowerAt_of_ne hsigma] at h
      exact letter_of_mem_lowerChar hc hd h
  · rintro (⟨rfl, rfl⟩ | ⟨rfl, rfl⟩)
    · rw [lowerAt_of_ne (by decide)]
      decide
    · rw [lowerAt_of_ne (by decide)]
      decide

lemma lowerChar_ne_nil (c : Char) : lowerChar c ≠ [] := by
  unfold lowerChar
  split_ifs
  · simp
  · simp
  · split <;> simp

lemma lowerAt_ne_nil (earlier : List Char) (c : Char) (later : List Char) :
    lowerAt earlier c later ≠ [] := by
  by_cases hc : c = 'Σ'
  · subst hc
    rcases lowerAt_sigma earlier later with h | h <;> simp [h]
  · rw [lowerAt_of_ne hc]
    exact lowerChar_ne_nil c

/-! ### Words in the lower case of a text -/

/-- The small letters of ASCII that come from no character beyond it. -/
def IsPlain (l : Char) : Prop := l.isLower = true ∧ l ≠ 'i' ∧ l ≠ 'k'

lemma IsPlain.isAlpha (hl : IsPlain l) : l.isAlpha = true := by
  simp [Char.isAlpha, hl.1]

lemma IsPlain.not_mem_lowerAt (hl : IsPlain l) (hc : 0x80 ≤ c.toNat) :
    l ∉ lowerAt earlier c later := by
  rw [letter_mem_lowerAt_iff hc hl.isAlpha]
  simp [hl.2.1, hl.2.2]

lemma IsPlain.ne (hl : IsPlain l) (hc : 0x80 ≤ c.toNat) : l ≠ c := by
  rintro rfl
  have hlt := lt_of_isAlpha hl.isAlpha
  omega

/-- Behind a part that shares no character with it, a word stands in a text only if it stands in the
rest. -/
lemma infix_append_iff_of_disjoint {part rest : List Char} (h : part.Disjoint word) :
    word <:+: part ++ rest ↔ word <:+: rest := by
  constructor
  · intro hin
    rcases List.infix_append_iff.mp hin with hin | hin | ⟨front, back, rfl, hfront, hback⟩
    · have hnil : word = [] :=
        List.eq_nil_iff_forall_not_mem.mpr fun l hl => h (hin.subset hl) hl
      simp [hnil]
    · exact hin
    · have hnil : front = [] :=
        List.eq_nil_iff_forall_not_mem.mpr fun l hl => h (hfront.subset hl) (by simp [hl])
      simpa [hnil] using hback.isInfix
  · exact fun hin => hin.trans (List.suffix_append part rest).isInfix

lemma prefix_lowerAfter_iff (earlier : List Char) (hword : ∀ l ∈ word, IsPlain l) :
    word <+: lowerAfter earlier s ↔ word <+: s.map Char.toLower := by
  induction s generalizing word earlier with
  | nil => rfl
  | cons c s ih =>
    rcases word with _ | ⟨l, word⟩
    · simp
    · have hl : IsPlain l := hword l (by simp)
      rw [lowerAfter_cons, List.map_cons]
      rcases Nat.lt_or_ge c.toNat 0x80 with hc | hc
      · rw [lowerAt_of_ascii hc, List.singleton_append, List.cons_prefix_cons,
          List.cons_prefix_cons, ih _ fun d hd => hword d (by simp [hd])]
      · -- The word begins neither with `c` nor with what becomes of it, and something does.
        obtain ⟨d, part, hpart⟩ := List.exists_cons_of_ne_nil (lowerAt_ne_nil earlier c s)
        have hd : l ≠ d := by
          rintro rfl
          have hnot : l ∉ lowerAt earlier c s := hl.not_mem_lowerAt hc
          simp [hpart] at hnot
        simp [hpart, List.cons_prefix_cons, hd, toLower_of_beyond_ascii hc, hl.ne hc]

/-- **Lower case neither makes nor hides a word of plain letters.** The word stands in the lower
case of a text if and only if it stands there once the letters of ASCII alone are made small. -/
theorem infix_lowerAfter_iff (hword : ∀ l ∈ word, IsPlain l) :
    word <:+: lowerAfter earlier s ↔ word <:+: s.map Char.toLower := by
  induction s generalizing earlier with
  | nil => rfl
  | cons c s ih =>
    rcases Nat.lt_or_ge c.toNat 0x80 with hc | hc
    · have hfirst := prefix_lowerAfter_iff (s := c :: s) earlier hword
      rw [lowerAfter_cons, lowerAt_of_ascii hc, List.singleton_append, List.map_cons] at hfirst ⊢
      rw [List.infix_cons_iff, List.infix_cons_iff, hfirst, ih]
    · have hpart : (lowerAt earlier c s).Disjoint word := fun l hl hmem =>
        (hword l hmem).not_mem_lowerAt hc hl
      have hself : [c].Disjoint word := by
        simpa using fun hmem => (hword c hmem).ne hc rfl
      rw [lowerAfter_cons, infix_append_iff_of_disjoint hpart, ih, List.map_cons,
        toLower_of_beyond_ascii hc, ← List.singleton_append, infix_append_iff_of_disjoint hself]

/-! ### Spelling without regard to case -/

/-- A word in small letters stands in a text: one character after another is the letter of the word
or its capital. -/
def Spells (s word : List Char) : Prop :=
  ∃ written, written <:+: s ∧ List.Forall₂ (fun c l => c = l ∨ c = l.toUpper) written word

instance (s word : List Char) : Decidable (Spells s word) :=
  decidable_of_iff
    (∃ t ∈ s.tails, List.Forall₂ (fun c l => c = l ∨ c = l.toUpper) (t.take word.length) word) <| by
  constructor
  · rintro ⟨t, ht, hword⟩
    have hsuffix : t <:+ s := (List.mem_tails t s).mp ht
    exact ⟨_, (List.take_prefix _ t).isInfix.trans hsuffix.isInfix, hword⟩
  · rintro ⟨written, hin, hword⟩
    obtain ⟨t, hprefix, hsuffix⟩ := List.infix_iff_prefix_suffix.mp hin
    refine ⟨t, (List.mem_tails t s).mpr hsuffix, ?_⟩
    rwa [← hword.length_eq, ← List.prefix_iff_eq_take.mp hprefix]

lemma spells_iff (hword : ∀ l ∈ word, l.isLower = true) :
    Spells s word ↔ word <:+: s.map Char.toLower := by
  rw [Spells, List.infix_map_iff]
  refine exists_congr fun written => and_congr_right fun _ => ?_
  rw [eq_comm (a := word), ← List.forall₂_eq_eq_eq, List.forall₂_map_left_iff,
    List.forall₂_iff_zip, List.forall₂_iff_zip]
  refine and_congr_right fun _ => forall₂_congr fun c l => forall_congr' fun hmem => ?_
  exact (toLower_eq_iff (hword l (List.of_mem_zip hmem).2)).symm

/-- **A word of plain letters is found in a text if and only if the text spells it.** -/
theorem containsIgnoreCase_iff (hword : ∀ l ∈ word, IsPlain l) :
    containsIgnoreCase s word = true ↔ Spells s word := by
  have hascii : ∀ l ∈ word, l.toNat < 0x80 := fun l hl => lt_of_isAlpha (hword l hl).isAlpha
  have hself : word.map Char.toLower = word := by
    rw [List.map_congr_left fun l hl => (toLower_eq_iff (hword l hl).1).mpr (.inl rfl),
      List.map_id']
  rw [containsIgnoreCase, occursIn_iff, lower_of_ascii hascii, hself, lower,
    infix_lowerAfter_iff hword, spells_iff fun l hl => (hword l hl).1]

/-- The letter `k` is not plain: the sign of the kelvin is found for it. -/
example : containsIgnoreCase ['\u212A'] ['k'] = true ∧ ¬ Spells ['\u212A'] ['k'] := by decide

end Text

/-! ### Markers -/

namespace Cell

/-- The word stands in the text of the cell, each letter small or capital. -/
def Spells (c : Cell) (word : String) : Prop := Text.Spells c.text.toList word.toList

instance (c : Cell) (word : String) : Decidable (c.Spells word) :=
  inferInstanceAs (Decidable (Text.Spells _ _))

lemma contains_data_iff (c : Cell) : c.contains "data" = true ↔ c.Spells "data" :=
  Text.containsIgnoreCase_iff (by simp [Text.IsPlain])

lemma contains_job_iff (c : Cell) : c.contains "job" = true ↔ c.Spells "job" :=
  Text.containsIgnoreCase_iff (by simp [Text.IsPlain])

end Cell

namespace Image

/-- Where the last cell of a kind stands; behind all cells if there is none. -/
inductive LastAt (kind : Cell → Prop) : List Cell → ℕ → Prop where
  | found {before after : List Cell} {c : Cell} (here : kind c) (last : ∀ d ∈ after, ¬ kind d) :
    LastAt kind (before ++ c :: after) before.length
  | missing {cells : List Cell} (none : ∀ d ∈ cells, ¬ kind d) : LastAt kind cells cells.length

lemma Boundary.lastAt {cells : List Cell} {k : ℕ} (h : Boundary cells k) :
    LastAt (·.Spells "data") cells k := by
  have hnot : ∀ d : Cell, d.contains "data" = false → ¬ d.Spells "data" := fun d hd => by
    simp [← Cell.contains_data_iff, hd]
  cases h with
  | marked marks last =>
    exact .found ((Cell.contains_data_iff _).mp marks) fun d hd => hnot d (last d hd)
  | unmarked none => exact .missing fun d hd => hnot d (none d hd)

lemma mark_eq : mark = fun c => if c.Spells "data" then ⟨"data"⟩ else c := by
  funext c
  simp only [mark, Cell.isDataMarker, Cell.contains_data_iff]
  rfl

end Image

/-- **Markers are found without regard to the case of the letters of ASCII, and not otherwise.**
Whatever characters a text holds, `data` is found in it if and only if four characters in a row are
these letters, each small or capital; and `job` likewise. So the long-term scheduler takes out the
first cell if it spells `job` in this sense and no other cell, writes `data` over the cells that
spell it and no others, and its boundary is the last of them, or the end of the cells if there is
none. -/
theorem markers_found_exactly :
    (∀ c : Cell, (c.contains "data" = true ↔ c.Spells "data") ∧
      (c.contains "job" = true ↔ c.Spells "job")) ∧
    ∀ s : Kernel,
      let loaded := s.memory.cells.toList
      let body := if loaded.head?.any (·.Spells "job") then loaded.tail else loaded
      let cells := body.map (fun c => if c.Spells "data" then ⟨"data"⟩ else c) ++ [⟨"end"⟩]
      ∃ boundary, Image.LastAt (·.Spells "data") body boundary ∧
        s.schedule.result = .ok ⟨0, boundary, boundary, .new⟩ ∧
        s.schedule.kernel = ⟨s.processor, some ⟨0, boundary, boundary, .new⟩, ⟨cells.toArray⟩⟩ := by
  refine ⟨fun c => ⟨c.contains_data_iff, c.contains_job_iff⟩, fun s => ?_⟩
  intro loaded body cells
  have hjob : ∀ c : Cell, c.contains "job" = decide (c.Spells "job") := fun c => by
    rw [Bool.eq_iff_iff, c.contains_job_iff, decide_eq_true_iff]
  have hbody : Image.body loaded = body := by
    simp only [Image.body_eq, hjob, body]
  have hcells : (Image.ofCells loaded).cells = cells := by
    rw [Image.ofCells, hbody, Image.mark_eq]
    rfl
  have hboundary := (Image.boundary_ofCells loaded).lastAt
  rw [hbody] at hboundary
  refine ⟨(Image.ofCells loaded).boundary, hboundary, rfl, ?_⟩
  rw [← hcells]
  rfl

/-- A marker in mixed case, one with a letter of another script in it, and a program with both of
them and a header. -/
theorem markers_found_exactly_mixed :
    let s := (Kernel.init {}).loadLines ["// JoB 1", "0x93000000", "d\u03B1ta", "// DaTa 14", "7"]
    (⟨"// DaTa 14"⟩ : Cell).contains "data" = true ∧
      (⟨"d\u03B1ta"⟩ : Cell).contains "data" = false ∧
      s.schedule.result = .ok ⟨0, 2, 2, .new⟩ ∧
      s.schedule.kernel.memory.texts = ["0x93000000", "d\u03B1ta", "data", "7", "end"] := by
  intro s
  obtain ⟨hcontains, hschedule⟩ := markers_found_exactly
  have hspells : (⟨"// DaTa 14"⟩ : Cell).Spells "data" := by decide
  have hnot : ¬ (⟨"d\u03B1ta"⟩ : Cell).Spells "data" := by decide
  obtain ⟨boundary, -, hresult, hkernel⟩ := hschedule s
  have htwo : s.schedule.result = .ok ⟨0, 2, 2, .new⟩ := by decide +kernel
  obtain rfl : boundary = 2 := by
    rw [hresult, Except.ok.injEq, ControlBlock.mk.injEq] at htwo
    exact htwo.2.1
  refine ⟨(hcontains _).1.mpr hspells, ?_, hresult, ?_⟩
  · rwa [← Bool.not_eq_true, (hcontains _).1]
  · rw [hkernel]
    decide +kernel

end CellMachine
