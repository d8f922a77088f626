import CellMachine.Files.Directory
import CellMachine.Main
import CellMachine.Proofs.AssembledPrograms
import CellMachine.Proofs.Failures
import CellMachine.Proofs.LifeCycle
import CellMachine.Proofs.Statements
import CellMachine.Proofs.Disassembly
import CellMachine.Proofs.Budgets
import CellMachine.Proofs.Dependence
import CellMachine.Proofs.Spelling
import CellMachine.Proofs.Footprint
import CellMachine.Proofs.Codec
import CellMachine.Proofs.Configurations
import CellMachine.Proofs.InstructionSlots
import CellMachine.Proofs.JumpModes
import CellMachine.Proofs.Readings
import CellMachine.Proofs.InstructionTable
import CellMachine.Proofs.ForwardPrograms
import CellMachine.Proofs.Grammar
import CellMachine.Proofs.CommandLine
import CellMachine.Proofs.CellNumbers
import CellMachine.Proofs.ProgramImages
import CellMachine.Proofs.CycleRecords
import CellMachine.Proofs.HaltModes
import CellMachine.Proofs.StickyFaults
import CellMachine.Proofs.Concatenation
import CellMachine.Proofs.Storage
import CellMachine.Proofs.Countdown
import CellMachine.Proofs.MarkerSearch
