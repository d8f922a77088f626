import Mathlib.Tactic
import CellMachine.Instruction.Codec

/-!
Encoding and decoding. The code of the layout, the opcode and the operands of an instruction fill
consecutive fields of a word, from its top; decoding finds in every field what was put there, modulo
the width of the field. In the other direction, a decoded word is encoded to the bits that decoding
has looked at.
-/

namespace CellMachine.Instruction

open Word

variable {i : Instruction} {w : UInt32} {start width : ℕ} {fs : List Field} {vs : List UInt32}

/-- The low bits of operands, as many as their fields hold. -/
def cut : List Field → List UInt32 → List UInt32
  | f :: fs, v :: vs => UInt32.ofNat (v.toNat % 2 ^ f.width) :: cut fs vs
  | _, _ => []

/-- An instruction that a word can hold. -/
structure Fits (i : Instruction) : Prop where
  opcode : i.opcode.toNat < 64
  fields : List.Forall₂ (fun f v => v.toNat < 2 ^ f.width) i.layout.fields i.fields

lemma cut_of_fit (h : List.Forall₂ (fun f v => v.toNat < 2 ^ f.width) fs vs) : cut fs vs = vs := by
  induction h with
  | nil => rfl
  | cons hv _ ih => rw [cut, ih, Nat.mod_eq_of_lt hv, UInt32.ofNat_toNat]

def totalWidth (fs : List Field) : ℕ := (fs.map Field.width).sum

@[simp] lemma totalWidth_cons (f : Field) (fs : List Field) :
    totalWidth (f :: fs) = f.width + totalWidth fs := by simp [totalWidth]

lemma totalWidth_fields (l : Layout) : 8 + totalWidth l.fields ≤ 32 := by
  cases l <;> decide

lemma bits_eq (w : UInt32) (start width : ℕ) :
    bits w start width = w.toNat / 2 ^ (32 - start - width) % 2 ^ width := by
  rw [bits, Nat.shiftRight_eq_div_pow, Nat.one_shiftLeft]

lemma place_eq (v start width : ℕ) :
    place v start width = v % 2 ^ width * 2 ^ (32 - start - width) := by
  rw [place, Nat.shiftLeft_eq, Nat.one_shiftLeft]

lemma two_pow_split (width : ℕ) (h : start + width ≤ 32) :
    2 ^ (32 - start) = 2 ^ width * 2 ^ (32 - start - width) := by
  rw [← pow_add]
  congr 1
  omega

/-- A field and what stays below its last bit stay together below what precedes them. -/
lemma place_add_lt (v start width : ℕ) {rest : ℕ} (h : start + width ≤ 32)
    (hr : rest < 2 ^ (32 - start - width)) : place v start width + rest < 2 ^ (32 - start) := by
  have hv : v % 2 ^ width < 2 ^ width := Nat.mod_lt _ (Nat.two_pow_pos _)
  rw [place_eq, two_pow_split _ h]
  calc v % 2 ^ width * 2 ^ (32 - start - width) + rest
      < (v % 2 ^ width + 1) * 2 ^ (32 - start - width) := by rw [Nat.succ_mul]; omega
    _ ≤ 2 ^ width * 2 ^ (32 - start - width) := Nat.mul_le_mul_right _ hv

lemma placeFrom_lt (start : ℕ) (vs : List UInt32) (h : start + totalWidth fs ≤ 32) :
    placeFrom start fs vs < 2 ^ (32 - start) := by
  induction fs generalizing start vs with
  | nil => exact Nat.two_pow_pos _
  | cons f fs ih =>
    cases vs with
    | nil => exact Nat.two_pow_pos _
    | cons v vs =>
      rw [totalWidth_cons] at h
      have hrest := ih (start + f.width) vs (by omega)
      rw [← Nat.sub_sub] at hrest
      exact place_add_lt _ _ _ (by omega) hrest

/-- In a word, what was put into a field is found there. -/
lemma bits_of_place (high : ℕ) {v rest : ℕ} (h : start + width ≤ 32)
    (hr : rest < 2 ^ (32 - start - width))
    (hw : w.toNat = high * 2 ^ (32 - start) + (place v start width + rest)) :
    bits w start width = v % 2 ^ width := by
  have hsum : w.toNat = rest + 2 ^ (32 - start - width) * (high * 2 ^ width + v % 2 ^ width) := by
    rw [hw, two_pow_split _ h, place_eq]
    ring
  rw [bits_eq, hsum, Nat.add_mul_div_left _ _ (Nat.two_pow_pos _), Nat.div_eq_of_lt hr, Nat.zero_add,
    Nat.add_comm, Nat.add_mul_mod_self_right, Nat.mod_mod]

lemma operandsFrom_of_placeFrom (high : ℕ) (hlen : vs.length = fs.length)
    (h : start + totalWidth fs ≤ 32)
    (hw : w.toNat = high * 2 ^ (32 - start) + placeFrom start fs vs) :
    operandsFrom w start fs = cut fs vs := by
  -- What precedes the fields, `high`, grows by a field at every step.
  induction fs generalizing start high vs with
  | nil => rfl
  | cons f fs ih =>
    obtain ⟨v, vs, rfl⟩ : ∃ v t, vs = v :: t := List.exists_cons_of_length_eq_add_one hlen
    rw [totalWidth_cons] at h
    have hrest := placeFrom_lt (start + f.width) vs (show _ + totalWidth fs ≤ 32 by omega)
    rw [← Nat.sub_sub] at hrest
    rw [operandsFrom, cut, bits_of_place high (by omega) hrest hw]
    congr 1
    apply ih (high * 2 ^ f.width + v.toNat % 2 ^ f.width) (by simpa using hlen) (by omega)
    rw [hw, placeFrom, place_eq, ← Nat.sub_sub, two_pow_split f.width (by omega)]
    ring

/-- The word of an instruction has the code of the layout, the opcode and the operands in its
fields. -/
lemma toNat_encode (i : Instruction) :
    (encode i).toNat =
      place i.layout.code 0 2 +
        (place i.opcode.toNat 2 6 + placeFrom 8 i.layout.fields i.fields) := by
  have hrest := placeFrom_lt 8 i.fields (totalWidth_fields i.layout)
  have hop := place_add_lt i.opcode.toNat 2 6 (by omega) hrest
  have hword := place_add_lt i.layout.code 0 2 (by omega) hop
  rw [encode, UInt32.toNat_ofNat', Nat.add_assoc]
  exact Nat.mod_eq_of_lt hword

/-- **Decoding an encoded instruction** gives back its layout, and of its opcode and its operands
the bits that their fields hold. -/
theorem decode_encode (i : Instruction) :
    decode (encode i) =
      ofOperands i.layout (UInt8.ofNat (i.opcode.toNat % 64)) (cut i.layout.fields i.fields) := by
  have hword := toNat_encode i
  have hrest := placeFrom_lt 8 i.fields (totalWidth_fields i.layout)
  have hop := place_add_lt i.opcode.toNat 2 6 (by omega) hrest
  have hcode : i.layout.code % 2 ^ 2 = i.layout.code := Nat.mod_eq_of_lt i.layout.code_lt
  have hlayout : bits (encode i) 0 2 = i.layout.code := by
    rw [bits_of_place 0 (by omega) hop (by rw [hword]; ring), hcode]
  have hopcode : bits (encode i) 2 6 = i.opcode.toNat % 64 := by
    apply bits_of_place i.layout.code (by omega) hrest
    rw [hword, place_eq, hcode]
  have hoperands : operandsFrom (encode i) 8 i.layout.fields = cut i.layout.fields i.fields := by
    apply operandsFrom_of_placeFrom (i.layout.code * 2 ^ 6 + i.opcode.toNat % 2 ^ 6)
      (by simp [Layout.arity]) (totalWidth_fields _)
    rw [hword, place_eq, place_eq, hcode]
    ring
  have hl : Layout.ofCode ⟨bits (encode i) 0 2, bits_lt _ 0 2⟩ = i.layout := by
    simp only [hlayout, Layout.ofCode_code]
  simp only [decode, hl, hopcode, hoperands]

example : decode (encode (.transfer 0x42 0x13 2 ⟨0x10005⟩)) = .transfer 2 3 2 ⟨5⟩ := by decide +kernel

lemma Fits.decode_encode (h : i.Fits) : decode (encode i) = i := by
  rw [Instruction.decode_encode, cut_of_fit h.fields, Nat.mod_eq_of_lt h.opcode, UInt8.ofNat_toNat,
    ofOperands_fields]

/-! ### Decoded words -/

lemma fields_ofOperands {layout : Layout} {opcode : UInt8} {vs : List UInt32}
    (h : List.Forall₂ (fun f v => v.toNat < 2 ^ f.width) layout.fields vs) :
    (ofOperands layout opcode vs).fields = vs := by
  have hreg : ∀ v : UInt32, v.toNat < 2 ^ 4 → v.toUInt8.toUInt32 = v := by
    intro v hv
    apply UInt32.toNat_inj.mp
    simp only [UInt8.toNat_toUInt32, UInt32.toNat_toUInt8]
    omega
  cases layout with
  | arithmetic =>
    obtain _ | ⟨ha, _ | ⟨hb, _ | ⟨hc, _ | ⟨hd, _ | _⟩⟩⟩⟩ := h
    simp [ofOperands, fields, hreg _ ha, hreg _ hb, hreg _ hc]
  | immediate | transfer =>
    obtain _ | ⟨ha, _ | ⟨hb, _ | ⟨hc, _ | _⟩⟩⟩ := h
    simp [ofOperands, fields, hreg _ ha, hreg _ hb]
  | jump =>
    obtain _ | ⟨ha, _ | _⟩ := h
    simp [ofOperands, fields]

/-- The bits from `start` on are those of a field and those behind it. -/
lemma place_bits_add (w : UInt32) (start width : ℕ) (h : start + width ≤ 32) :
    place (bits w start width) start width + w.toNat % 2 ^ (32 - start - width) =
      w.toNat % 2 ^ (32 - start) := by
  rw [place_eq, bits_eq, Nat.mod_mod, two_pow_split width h, Nat.mul_comm (2 ^ width), Nat.mod_mul]
  ring

lemma bits_lt_two_pow (w : UInt32) (start width : ℕ) : bits w start width < 2 ^ width := by
  rw [← Nat.one_shiftLeft]
  exact bits_lt w start width

lemma toNat_ofNat_bits (w : UInt32) (h : start + width ≤ 32) :
    (UInt32.ofNat (bits w start width)).toNat = bits w start width := by
  have hlt := bits_lt_two_pow w start width
  have hle : 2 ^ width ≤ 2 ^ 32 := Nat.pow_le_pow_right (by omega) (by omega)
  rw [UInt32.toNat_ofNat', Nat.mod_eq_of_lt (by omega)]

lemma placeFrom_operandsFrom_add (w : UInt32) (start : ℕ) (h : start + totalWidth fs ≤ 32) :
    placeFrom start fs (operandsFrom w start fs) + w.toNat % 2 ^ (32 - start - totalWidth fs) =
      w.toNat % 2 ^ (32 - start) := by
  induction fs generalizing start with
  | nil => simp [placeFrom, totalWidth]
  | cons f fs ih =>
    rw [totalWidth_cons] at h ⊢
    have hf : start + f.width ≤ 32 := by omega
    have hrest := ih (start + f.width) (by omega)
    have hsub :
        32 - start - (f.width + totalWidth fs) = 32 - (start + f.width) - totalWidth fs := by
      omega
    rw [operandsFrom, placeFrom, toNat_ofNat_bits w hf, hsub, Nat.add_assoc, hrest, ← Nat.sub_sub]
    exact place_bits_add w start f.width hf

lemma fit_operandsFrom (w : UInt32) (start : ℕ) (fs : List Field) :
    List.Forall₂ (fun f v => v.toNat < 2 ^ f.width) fs (operandsFrom w start fs) := by
  induction fs generalizing start with
  | nil => exact .nil
  | cons f fs ih =>
    refine .cons ?_ (ih _)
    have hlt := bits_lt_two_pow w start f.width
    have hle := Nat.mod_le (bits w start f.width) (2 ^ 32)
    rw [UInt32.toNat_ofNat']
    omega

lemma code_layout_decode (w : UInt32) : (decode w).layout.code = bits w 0 2 := by
  rw [decode, layout_ofOperands]
  generalize hk : (⟨bits w 0 2, bits_lt w 0 2⟩ : Fin 4) = k
  have hval : bits w 0 2 = k := congrArg Fin.val hk
  rw [hval]
  fin_cases k <;> rfl

lemma toNat_opcode_decode (w : UInt32) : (decode w).opcode.toNat = bits w 2 6 := by
  have hlt : bits w 2 6 < 64 := bits_lt w 2 6
  rw [decode, opcode_ofOperands, UInt8.toNat_ofNat', Nat.mod_eq_of_lt (by omega)]

lemma fields_decode (w : UInt32) :
    (decode w).fields = operandsFrom w 8 (decode w).layout.fields := by
  have hl : (decode w).layout = Layout.ofCode ⟨bits w 0 2, bits_lt w 0 2⟩ := layout_ofOperands _ _ _
  rw [hl, decode]
  exact fields_ofOperands (fit_operandsFrom w 8 _)

/-- Every word is decoded to an instruction that a word can hold. -/
theorem fits_decode (w : UInt32) : (decode w).Fits where
  opcode := by
    rw [toNat_opcode_decode]
    exact bits_lt w 2 6
  fields := by
    rw [fields_decode]
    exact fit_operandsFrom w 8 _

/-- The bits of a word that decoding looks at: all of them, unless its first two are zero. -/
def significant (w : UInt32) : UInt32 := if w >>> 30 = 0 then w >>> 8 <<< 8 else w

/-- Encoding a decoded word adds up with the bits that decoding has passed over. -/
lemma toNat_encode_decode_add (w : UInt32) :
    (encode (decode w)).toNat + w.toNat % 2 ^ (24 - totalWidth (decode w).layout.fields) =
      w.toNat := by
  have hfields := placeFrom_operandsFrom_add w 8 (totalWidth_fields (decode w).layout)
  have hopcode := place_bits_add w 2 6 (by omega)
  have hlayout := place_bits_add w 0 2 (by omega)
  have hword : w.toNat % 2 ^ (32 - 0) = w.toNat := Nat.mod_eq_of_lt w.toNat_lt
  rw [toNat_encode, code_layout_decode, toNat_opcode_decode, fields_decode]
  simp only [Nat.reduceSub] at hfields hopcode hlayout hword ⊢
  omega

lemma shiftRight_eq_zero_iff (w : UInt32) : w >>> 30 = 0 ↔ (decode w).layout = .arithmetic := by
  have hcode := code_layout_decode w
  have hbits : bits w 0 2 = w.toNat / 2 ^ 30 := by
    have := w.toNat_lt
    rw [bits_eq]
    omega
  have hzero : w >>> 30 = 0 ↔ w.toNat / 2 ^ 30 = 0 := by
    rw [← UInt32.toNat_inj, UInt32.toNat_shiftRight, Nat.shiftRight_eq_div_pow]
    rfl
  rw [hzero, ← hbits, ← hcode]
  cases (decode w).layout <;> simp [Layout.code]

/-- **Encoding a decoded word** gives back the bits that decoding has looked at. -/
theorem encode_decode (w : UInt32) : encode (decode w) = significant w := by
  have hsum := toNat_encode_decode_add w
  apply UInt32.toNat_inj.mp
  unfold significant
  split
  · next h =>
    rw [(shiftRight_eq_zero_iff w).mp h] at hsum
    have hwidth : 24 - totalWidth Layout.arithmetic.fields = 8 := by decide
    rw [hwidth] at hsum
    have hlt := w.toNat_lt
    rw [UInt32.toNat_shiftLeft, UInt32.toNat_shiftRight, Nat.shiftLeft_eq,
      Nat.shiftRight_eq_div_pow]
    simp only [UInt32.reduceToNat, Nat.reduceMod]
    omega
  · next h =>
    have hwidth : 24 - totalWidth (decode w).layout.fields = 0 := by
      have hne := (shiftRight_eq_zero_iff w).not.mp h
      cases hl : (decode w).layout with
      | arithmetic => exact absurd hl hne
      | immediate | jump | transfer => decide
    rw [hwidth] at hsum
    omega

/-- The last eight bits are lost only if the first two are zero. -/
example : significant 0x051230FF = 0x05123000 ∧ significant 0x4B0600FF = 0x4B0600FF := by decide

end CellMachine.Instruction
