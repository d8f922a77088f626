/-!
The switches of the machine: what halting does, where jumps take their target from, which register
holds the fetched instruction, and how many cycles a run may take.
-/

namespace CellMachine

inductive HaltMode where
  /-- Halting moves the program counter to the boundary. -/
  | terminate
  /-- Halting does nothing; a program ends by reaching the boundary. -/
  | legacy
deriving DecidableEq, Repr

namespace HaltMode

def name : HaltMode → String
  | terminate => "terminate"
  | legacy => "legacy"

def ofName? (s : String) : Option HaltMode := [terminate, legacy].find? (·.name == s)

end HaltMode

inductive JumpMode where
  /-- The target is the data word at the effective address. -/
  | indirect
  /-- The target is the address field. -/
  | direct
deriving DecidableEq, Repr

namespace JumpMode

def name : JumpMode → String
  | indirect => "indirect"
  | direct => "direct"

def ofName? (s : String) : Option JumpMode := [indirect, direct].find? (·.name == s)

end JumpMode

inductive InstructionSlot where
  /-- The fetched word goes to general register 2. -/
  | general
  /-- The fetched word goes to a register of its own. -/
  | dedicated
deriving DecidableEq, Repr

namespace InstructionSlot

def name : InstructionSlot → String
  | general => "general"
  | dedicated => "dedicated"

def ofName? (s : String) : Option InstructionSlot := [general, dedicated].find? (·.name == s)

end InstructionSlot

structure Config where
  halt : HaltMode := .terminate
  jumps : JumpMode := .indirect
  slot : InstructionSlot := .general
  /-- The number of cycles a run may take; without one it may go on for ever. -/
  budget : Option Nat := none
deriving DecidableEq, Repr

namespace Config

/-- The earliest machines: halting does nothing and jumps are direct. -/
def legacy : Config := { halt := .legacy, jumps := .direct }

end Config

end CellMachine
