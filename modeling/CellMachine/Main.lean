import CellMachine.Console.Arguments
import CellMachine.Console.Report
import CellMachine.Table.Typesetting

/-!
The program: reads its words and the one file they name, and prints the report.
-/

namespace CellMachine

/-- The longest run that is followed; the machine counts its cycles in sixty-four bits. -/
def cycleLimit : Nat := UInt64.size

def readFailure : IO.Error → ReadError
  | .noFileOrDirectory .. => .notFound
  | .inappropriateType _ code _ => if code = 21 then .isDirectory else .notDirectory
  | e => .other (toString e)

def readText (path : String) : IO (Except ReadError String) := do
  match ← (IO.FS.readBinFile path).toBaseIO with
  | .ok bytes => return textOfBytes bytes
  | .error e => return .error (readFailure e)

def print (r : Report) : IO UInt32 := do
  (← IO.getStdout).putStr r.output
  (← IO.getStderr).putStr r.errors
  return r.exitCode.toUInt32

end CellMachine

open CellMachine in
def main (args : List String) : IO UInt32 := do
  match ← Command.respond Command.parse Grid.typeset cycleLimit readText args with
  | some r => print r
  | none => return 1
