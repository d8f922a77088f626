import CellMachine.Numeral
import CellMachine.Processor.Config
import CellMachine.Text.Lines

/-!
The register file: sixteen signed registers and the instruction register, which is either general
register 2 or a slot of its own.
-/

namespace CellMachine

structure Registers where
  general : Vector Int32 16
  /-- Holds the fetched word if it does not go to register 2. -/
  dedicated : UInt32
  slot : InstructionSlot
deriving DecidableEq, Repr

namespace Registers

def init (slot : InstructionSlot) : Registers := ⟨Vector.replicate 16 0, 0, slot⟩

def reset (r : Registers) : Registers := init r.slot

/-- Register numbers count modulo sixteen. -/
def index (register : UInt8) : Fin 16 := ⟨register.toNat % 16, Nat.mod_lt _ (by decide)⟩

def get (r : Registers) (register : UInt8) : Int32 := r.general[index register]

def set (r : Registers) (register : UInt8) (v : Int32) : Registers :=
  { r with general := r.general.set (index register) v }

/-- The general register that may hold the fetched instruction. -/
def shared : Fin 16 := 2

def load (r : Registers) (word : UInt32) : Registers :=
  match r.slot with
  | .general => { r with general := r.general.set shared word.toInt32 shared.isLt }
  | .dedicated => { r with dedicated := word }

def instruction (r : Registers) : UInt32 :=
  match r.slot with
  | .general => r.general[shared].toUInt32
  | .dedicated => r.dedicated

def text (r : Registers) : String :=
  String.intercalate " " <|
    r.general.toList.zipIdx.map fun (v, k) => s!"R{k}={String.ofList (Numeral.decimal v.toInt)}"

@[simp] theorem slot_set (r : Registers) (register : UInt8) (v : Int32) :
    (r.set register v).slot = r.slot := rfl

@[simp] theorem slot_load (r : Registers) (word : UInt32) : (r.load word).slot = r.slot := by
  unfold load; split <;> rfl

@[simp] theorem slot_reset (r : Registers) : r.reset.slot = r.slot := rfl

/-- What was fetched is what is decoded. -/
@[simp] theorem instruction_load (r : Registers) (word : UInt32) :
    (r.load word).instruction = word := by
  unfold load
  split <;> simp [instruction, *]

theorem get_set (r : Registers) (a b : UInt8) (v : Int32) :
    (r.set a v).get b = if index b = index a then v else r.get b := by
  simp only [get, set, Fin.getElem_fin, Vector.getElem_set, Fin.ext_iff, eq_comm]

end Registers

end CellMachine
