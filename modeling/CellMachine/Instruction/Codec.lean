import CellMachine.Instruction.Basic

/-!
Instructions as words of thirty-two bits. Bits are counted from the most significant one. Every word
decodes; a word of the arithmetic layout leaves its last eight bits unused. Encoding drops the bits
of an operand that its field cannot hold.
-/

namespace CellMachine

namespace Word

/-- The `width` bits of a word that start `start` bits from its top. -/
def bits (w : UInt32) (start width : Nat) : Nat :=
  w.toNat >>> (32 - start - width) % (1 <<< width)

/-- The low `width` bits of a value, `start` bits from the top of a word. -/
def place (value start width : Nat) : Nat :=
  (value % (1 <<< width)) <<< (32 - start - width)

theorem bits_lt (w : UInt32) (start width : Nat) : bits w start width < 1 <<< width :=
  Nat.mod_lt _ (by rw [Nat.one_shiftLeft]; exact Nat.two_pow_pos width)

end Word

namespace Instruction

open Word

def operandsFrom (w : UInt32) : (start : Nat) → List Field → List UInt32
  | _, [] => []
  | start, f :: rest =>
    UInt32.ofNat (bits w start f.width) :: operandsFrom w (start + f.width) rest

def decode (w : UInt32) : Instruction :=
  let layout := Layout.ofCode ⟨bits w 0 2, bits_lt w 0 2⟩
  ofOperands layout (UInt8.ofNat (bits w 2 6)) (operandsFrom w 8 layout.fields)

def placeFrom : (start : Nat) → List Field → List UInt32 → Nat
  | start, f :: rest, v :: vs => place v.toNat start f.width + placeFrom (start + f.width) rest vs
  | _, _, _ => 0

def encode (i : Instruction) : UInt32 :=
  UInt32.ofNat
    (place i.layout.code 0 2 + place i.opcode.toNat 2 6 + placeFrom 8 i.layout.fields i.fields)

@[simp] theorem operandsFrom_nil (w : UInt32) (start : Nat) : operandsFrom w start [] = [] := rfl

@[simp] theorem length_operandsFrom (w : UInt32) (start : Nat) (fs : List Field) :
    (operandsFrom w start fs).length = fs.length := by
  induction fs generalizing start with
  | nil => rfl
  | cons f rest ih => simp [operandsFrom, ih]

end Instruction

end CellMachine
