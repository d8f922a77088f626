import CellMachine.Assembly.Program
import CellMachine.Proofs.Encoding

/-!
What the assembler reads off a source. The lines that say something are statements up to the first
data marker and numbers after it; a program has one instruction for every statement and one data
word for every number. An instruction that a statement means fits into a word, and without a suffix
it has the layout that its operation is meant for.
-/

namespace CellMachine.Assembly

open Text Instruction

namespace Statement

variable {st : Statement} {text : String} {i : Instruction}

lemma overflow?_eq_none_iff {fs : List Field} {vs : List UInt32} (hlen : vs.length = fs.length) :
    overflow? fs vs = none ↔ List.Forall₂ (fun f v => v.toNat < 2 ^ f.width) fs vs := by
  induction fs generalizing vs with
  | nil =>
    obtain rfl := List.length_eq_zero_iff.mp hlen
    simp [overflow?]
  | cons f fs ih =>
    obtain ⟨v, vs, rfl⟩ : ∃ v t, vs = v :: t := List.exists_cons_of_length_eq_add_one hlen
    rw [List.forall₂_cons, ← ih (by simpa using hlen), overflow?, Nat.one_shiftLeft]
    split <;> simp [*]

/-- **Inversion of a statement that means an instruction.** -/
theorem resolve_eq_ok_iff :
    st.resolve text = .ok i ↔ ∃ opcode layout, st.opcode? = some opcode ∧
      st.layout? opcode = some layout ∧
      List.Forall₂ (fun f v => v.toNat < 2 ^ f.width) layout.fields (st.values layout) ∧
      i = ofOperands layout opcode (st.values layout) := by
  unfold resolve
  rcases hopcode : st.opcode? with _ | opcode
  · simp
  · rcases hlayout : st.layout? opcode with _ | layout
    · simp [hlayout]
    · by_cases hlen : (st.values layout).length = layout.arity
      · rcases hover : overflow? layout.fields (st.values layout) with _ | d
        · have hfit := (overflow?_eq_none_iff hlen).mp hover
          simp [hlayout, hlen, hover, hfit, eq_comm]
        · have hfit : ¬ List.Forall₂ _ _ _ := (overflow?_eq_none_iff hlen).not.mp (by simp [hover])
          simp [hlayout, hlen, hover, hfit]
      · have hfit : ¬ List.Forall₂ (fun f (v : UInt32) => v.toNat < 2 ^ f.width) layout.fields
            (st.values layout) := fun h => hlen h.length_eq.symm
        simp [hlayout, hlen, hfit]

lemma opcode_lt {opcode : UInt8} (h : st.opcode? = some opcode) : opcode.toNat < 64 := by
  unfold opcode? at h
  split at h
  · next o _ =>
    obtain rfl := Option.some.inj h
    cases o <;> decide
  · split at h
    · obtain ⟨n, -, hn⟩ := Option.bind_eq_some_iff.mp h
      split at hn
      · next hlt =>
        obtain rfl := Option.some.inj hn
        rw [UInt8.toNat_ofNat']
        omega
      · simp at hn
    · simp at h

end Statement

def Means (text : List Char) (i : Instruction) : Prop := instruction text = .ok i

/-- The text has no suffix that forces a layout. -/
def Plain (text : List Char) : Prop := ∀ st, Statement.read? text = some st → st.suffix = none

def number? (text : List Char) : Option Int32 := (Numeral.read? text).bind Numeral.dataWord?

lemma means_iff {text : List Char} {i : Instruction} :
    Means text i ↔ ∃ st, Statement.read? text = some st ∧
      st.resolve (String.ofList (trim isWhite text)) = .ok i := by
  unfold Means instruction
  rcases Statement.read? text with _ | st <;> simp

theorem Means.fits {text : List Char} {i : Instruction} (h : Means text i) : i.Fits := by
  obtain ⟨st, -, h⟩ := means_iff.mp h
  obtain ⟨opcode, layout, hopcode, -, hfit, rfl⟩ := Statement.resolve_eq_ok_iff.mp h
  refine ⟨?_, ?_⟩
  · rw [opcode_ofOperands]
    exact Statement.opcode_lt hopcode
  · rw [layout_ofOperands, fields_ofOperands hfit]
    exact hfit

/-- Without a suffix a statement means an instruction in the layout of its operation. -/
theorem Means.layout {text : List Char} {i : Instruction} {o : Operation} (h : Means text i)
    (hp : Plain text) (ho : i.operation? = some o) : o.layout = i.layout := by
  obtain ⟨st, hst, h⟩ := means_iff.mp h
  obtain ⟨opcode, layout, -, hlayout, -, rfl⟩ := Statement.resolve_eq_ok_iff.mp h
  rw [operation?, opcode_ofOperands] at ho
  rw [layout_ofOperands]
  simpa [Statement.layout?, hp st hst, ho] using hlayout

/-! ### The lines of a source -/

/-- The lines that say something, without comments and white space around them. -/
def texts (ls : List (List Char)) : List (List Char) :=
  (ls.map fun line => trim isWhite (code line)).filter (· ≠ [])

/-- The texts before the first data marker. -/
def statements (ts : List (List Char)) : List (List Char) := ts.takeWhile (!isDataMarker ·)

/-- The texts after the first data marker, if there is one. -/
def numbers? (ts : List (List Char)) : Option (List (List Char)) :=
  match ts.dropWhile (!isDataMarker ·) with
  | [] => none
  | _ :: rest => some rest

lemma texts_nil : texts [] = [] := rfl

lemma texts_append (xs ys : List (List Char)) : texts (xs ++ ys) = texts xs ++ texts ys := by
  simp [texts]

lemma texts_cons (line : List Char) (rest : List (List Char)) :
    texts (line :: rest) =
      if trim isWhite (code line) = [] then texts rest
      else trim isWhite (code line) :: texts rest := by
  by_cases h : trim isWhite (code line) = [] <;> simp [texts, h]

lemma statements_cons (t : List Char) (ts : List (List Char)) :
    statements (t :: ts) = if isDataMarker t then [] else t :: statements ts := by
  by_cases h : isDataMarker t <;> simp [statements, h]

lemma numbers?_cons (t : List Char) (ts : List (List Char)) :
    numbers? (t :: ts) = if isDataMarker t then some ts else numbers? ts := by
  by_cases h : isDataMarker t <;> simp [numbers?, h]

lemma statements_append {ts : List (List Char)} (h : ∀ t ∈ ts, isDataMarker t = false)
    (rest : List (List Char)) :
    statements (ts ++ rest) = ts ++ statements rest ∧ numbers? (ts ++ rest) = numbers? rest := by
  induction ts with
  | nil => exact ⟨rfl, rfl⟩
  | cons t ts ih =>
    obtain ⟨ht, hts⟩ := List.forall_mem_cons.mp h
    simp [statements_cons, numbers?_cons, ht, (ih hts).1, (ih hts).2]

lemma map_eq_ok {ε α β : Type} {x : Except ε α} {f : α → β} {b : β} :
    x.map f = .ok b ↔ ∃ a, x = .ok a ∧ f a = b := by
  cases x <;> simp [Except.map]

lemma dataWords_eq_ok_iff {n : ℕ} {ls : List (List Char)} {vs : List Int32} :
    dataWords n ls = .ok vs ↔ List.Forall₂ (fun t v => number? t = some v) (texts ls) vs := by
  induction ls generalizing n vs with
  | nil => cases vs <;> simp [dataWords, texts_nil]
  | cons line rest ih =>
    rw [texts_cons]
    by_cases hvoid : trim isWhite (code line) = []
    · simp only [dataWords, hvoid, if_true]
      exact ih
    · simp only [dataWords, hvoid, if_false, List.forall₂_cons_left_iff]
      rcases hv : number? (trim isWhite (code line)) with _ | v
      · rw [number?] at hv
        simp [hv]
      · rw [number?] at hv
        simp only [hv, map_eq_ok, ih]
        grind

/-- **Inversion of assembly.** -/
theorem programFrom_eq_ok_iff {n : ℕ} {ls : List (List Char)} {p : Program} :
    programFrom n ls = .ok p ↔
      List.Forall₂ Means (statements (texts ls)) p.instructions ∧
        Option.Rel (List.Forall₂ fun t v => number? t = some v) (numbers? (texts ls)) p.data := by
  induction ls generalizing n p with
  | nil =>
    obtain ⟨is, data⟩ := p
    cases is <;> cases data <;> simp [programFrom, texts_nil, statements, numbers?]
  | cons line rest ih =>
    rw [texts_cons]
    by_cases hvoid : trim isWhite (code line) = []
    · simp only [programFrom, hvoid, if_true]
      exact ih
    · by_cases hmark : isDataMarker (trim isWhite (code line)) = true
      · simp only [programFrom, hvoid, hmark, if_true, if_false, statements_cons, numbers?_cons,
          map_eq_ok, dataWords_eq_ok_iff]
        obtain ⟨is, data⟩ := p
        cases data <;> cases is <;> simp
      · simp only [programFrom, hvoid, hmark, Bool.false_eq_true, if_false, statements_cons,
          numbers?_cons, List.forall₂_cons_left_iff, Means]
        rcases hi : instruction (trim isWhite (code line)) with d | i
        · simp
        · simp only [map_eq_ok, ih, Except.ok.injEq]
          constructor
          · rintro ⟨q, ⟨his, hdata⟩, rfl⟩
            exact ⟨⟨i, q.instructions, rfl, his, rfl⟩, hdata⟩
          · rintro ⟨⟨j, is, rfl, his, heq⟩, hdata⟩
            exact ⟨⟨is, p.data⟩, ⟨his, hdata⟩, by rw [← heq]⟩

end CellMachine.Assembly
