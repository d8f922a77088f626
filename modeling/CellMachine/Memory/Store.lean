import CellMachine.Memory.Cell
import CellMachine.Fault

/-!
The memory: one growing array of cells for instructions and data alike. Every access by an index
outside of it is a fault and changes nothing.
-/

namespace CellMachine

structure Memory where
  cells : Array Cell
deriving DecidableEq, Repr

namespace Memory

def empty : Memory := ⟨#[]⟩

def ofLines (lines : List String) : Memory := ⟨(lines.map Cell.mk).toArray⟩

def size (m : Memory) : Nat := m.cells.size

def texts (m : Memory) : List String := m.cells.toList.map Cell.text

/-- An index as a fault shows it: a signed number of sixty-four bits. -/
def shownIndex (index : Nat) : Int := Int.bmod index UInt64.size

def fault (m : Memory) (index : Nat) : Fault := .outside (shownIndex index) m.size

def check (m : Memory) (index : Nat) : Except Fault Unit :=
  if index < m.size then .ok () else .error (m.fault index)

def read (m : Memory) (index : Nat) : Except Fault Cell :=
  match m.cells[index]? with
  | some c => .ok c
  | none => .error (m.fault index)

def readWord (m : Memory) (index : Nat) : Except Fault Int32 :=
  match m.read index with
  | .error f => .error f
  | .ok c =>
    match c.dataWord? with
    | some v => .ok v
    | none => .error (.notData index c.text)

def locate (m : Memory) (target : Int) : Except Fault Nat :=
  if 0 ≤ target ∧ target < m.size then .ok target.toNat else .error (.outside target m.size)

def overwrite (m : Memory) (index : Nat) (c : Cell) : Except Fault Memory :=
  if h : index < m.cells.size then .ok ⟨m.cells.set index c⟩ else .error (m.fault index)

def write (m : Memory) (index : Nat) (v : Int32) : Except Fault Memory :=
  m.overwrite index (.ofWord v)

def push (m : Memory) (c : Cell) : Memory := ⟨m.cells.push c⟩

def append (m : Memory) (lines : List String) : Memory := ⟨m.cells ++ (lines.map Cell.mk).toArray⟩

/-- Takes out the cell at `index`; later cells move down by one. -/
def remove (m : Memory) (index : Nat) : Except Fault (Cell × Memory) :=
  if h : index < m.cells.size then .ok (m.cells[index], ⟨m.cells.eraseIdx index⟩)
  else .error (m.fault index)

theorem check_eq_ok_iff (m : Memory) (index : Nat) :
    m.check index = .ok () ↔ index < m.size := by
  unfold check; split <;> simp [*]

theorem read_eq_ok_iff (m : Memory) (index : Nat) (c : Cell) :
    m.read index = .ok c ↔ m.cells[index]? = some c := by
  unfold read; split <;> simp [*]

@[simp] theorem size_push (m : Memory) (c : Cell) : (m.push c).size = m.size + 1 := by
  simp [push, size]

@[simp] theorem size_append (m : Memory) (lines : List String) :
    (m.append lines).size = m.size + lines.length := by
  simp [append, size]

theorem overwrite_of_lt {m : Memory} {index : Nat} (h : index < m.size) (c : Cell) :
    m.overwrite index c = .ok ⟨m.cells.set index c h⟩ := by
  have h : index < m.cells.size := h
  simp [overwrite, h]

theorem overwrite_of_le {m : Memory} {index : Nat} (h : m.size ≤ index) (c : Cell) :
    m.overwrite index c = .error (m.fault index) := by
  have h : ¬ index < m.cells.size := Nat.not_lt.2 h
  simp [overwrite, h]

end Memory

end CellMachine
