import CellMachine.Proofs.Encoding

/-!
The codec is exact in both directions, also where operands do not fit. What comes back from a word
is the instruction whose operands have been cut to their fields first, and a word comes back but
for the bits that its layout leaves unused; so those are the only bits in which two words of one
instruction can differ.
-/

namespace CellMachine.Instruction

variable {layout : Layout} {opcode : UInt8} {w w' : UInt32}

/-- The operands that a word of the layout holds: one for every field, zero where none is given,
and of each the low bits that its field has room for. -/
def fitted (layout : Layout) (operands : List UInt32) : List UInt32 :=
  layout.fields.mapIdx fun k f => UInt32.ofNat ((operands.getD k 0).toNat % 2 ^ f.width)

/-- Registers pass through a byte on their way into a field, which costs none of its bits. -/
lemma cut_fields_ofOperands (operands : List UInt32) :
    cut layout.fields (ofOperands layout opcode operands).fields = fitted layout operands := by
  cases layout <;> simp [ofOperands, fields, Layout.fields, cut, fitted]

lemma opcode_mod (opcode : UInt8) : UInt8.ofNat (opcode.toNat % 64) = opcode % 64 := by
  have hsize : (64 : UInt8).toNat = 64 := rfl
  apply UInt8.toNat_inj.mp
  rw [UInt8.toNat_mod, UInt8.toNat_ofNat', hsize]
  omega

/-- The bits that count are all but the last eight of a word in the arithmetic layout. -/
lemma significant_eq (w : UInt32) :
    significant w = if (decode w).layout = .arithmetic then w >>> 8 <<< 8 else w := by
  simp only [significant, shiftRight_eq_zero_iff]

/-- Decoding looks at no other bits than those it gives back. -/
lemma decode_significant (w : UInt32) : decode (significant w) = decode w := by
  rw [← encode_decode, (fits_decode w).decode_encode]

lemma decode_eq_decode_iff : decode w = decode w' ↔ significant w = significant w' := by
  constructor
  · intro h
    rw [← encode_decode, ← encode_decode, h]
  · intro h
    rw [← decode_significant w, ← decode_significant w', h]

/-- **The codec is exact.** An instruction of any operands comes back from its word with its opcode
modulo 64 and its operands as its fields hold them; a word comes back from its instruction but for
the last eight bits of the arithmetic layout; and two words are one instruction exactly if they
agree in the bits that come back. -/
theorem codec_exact :
    (∀ (layout : Layout) (opcode : UInt8) (operands : List UInt32),
      decode (encode (ofOperands layout opcode operands)) =
        ofOperands layout (opcode % 64) (fitted layout operands)) ∧
    (∀ w, encode (decode w) = significant w ∧
      significant w = if (decode w).layout = .arithmetic then w >>> 8 <<< 8 else w) ∧
    ∀ w w', decode w = decode w' ↔ significant w = significant w' := by
  refine ⟨fun layout opcode operands => ?_, fun w => ⟨encode_decode w, significant_eq w⟩,
    fun w w' => decode_eq_decode_iff⟩
  rw [decode_encode, layout_ofOperands, opcode_ofOperands, cut_fields_ofOperands, opcode_mod]

/-- Cutting an address to its field can leave none, which names a register. -/
example : fitted .transfer [0x105, 2, 0x30000, 7] = [5, 2, 0] ∧
    (decode (encode (ofOperands .transfer 0x40 [0x105, 2, 0x30000, 7]))).address.isRegister := by
  decide +kernel

end CellMachine.Instruction
