import CellMachine.Processor.Config

/-!
What can be asked for on the command line, and what reads the words that ask for it.
-/

namespace CellMachine

structure Flags where
  legacyHalt : Bool := false
  directJumps : Bool := false
  dedicatedRegister : Bool := false
  maxCycles : Option UInt64 := none
deriving DecidableEq, Repr

def Flags.config (f : Flags) : Config where
  halt := if f.legacyHalt then .legacy else .terminate
  jumps := if f.directJumps then .direct else .indirect
  slot := if f.dedicatedRegister then .dedicated else .general
  budget := f.maxCycles.map UInt64.toNat

inductive Command where
  | run (program : String) (flags : Flags)
  | assemble (source : String)
deriving DecidableEq, Repr

def Command.path : Command → String
  | run program _ => program
  | assemble source => source

/-- The text that is printed where there is no command to carry out. -/
inductive Usage where
  | help (text : String)
  | invalid (text : String)
deriving DecidableEq, Repr

abbrev ArgumentReader := List String → Except Usage Command

end CellMachine
