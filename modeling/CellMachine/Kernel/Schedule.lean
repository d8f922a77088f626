import CellMachine.Kernel.Basic

/-!
From a file to a process. Loading adds a cell for every line. The long-term scheduler drops a job
header, writes the data marker over every cell that contains it, takes the last of these for the
boundary between instructions and data, and adds the end marker. The short-term scheduler clears the
processor and makes the process ready.
-/

namespace CellMachine

/-- The cells of a scheduled program, and where its instructions end. -/
structure Image where
  cells : List Cell
  boundary : Nat
deriving DecidableEq, Repr

namespace Image

def body : List Cell → List Cell
  | [] => []
  | c :: rest => if c.isJobHeader then rest else c :: rest

def mark (c : Cell) : Cell := if c.isDataMarker then .dataMarker else c

def lastMarker? : List Cell → Option Nat
  | [] => none
  | c :: rest =>
    match lastMarker? rest with
    | some k => some (k + 1)
    | none => if c.isDataMarker then some 0 else none

def ofCells (cells : List Cell) : Image :=
  let body := body cells
  ⟨body.map mark ++ [.endMarker], (lastMarker? body).getD body.length⟩

end Image

namespace Kernel

def loadLines (s : Kernel) (lines : List String) : Kernel :=
  { s with memory := s.memory.append lines }

/-- Adds the lines of the file at `path` to memory, given what reading it yielded, and answers how
many there are. -/
def load (s : Kernel) (path : String) (contents : Except ReadError String) : Outcome Nat :=
  match contents with
  | .error cause => ⟨.error (.unloadable path cause), s, []⟩
  | .ok text =>
    let lines := (Text.lines text.toList).map String.ofList
    ⟨.ok lines.length, s.loadLines lines, [.loaded lines.length path]⟩

/-- The long-term scheduler. -/
def schedule (s : Kernel) : Outcome ControlBlock :=
  let image := Image.ofCells s.memory.cells.toList
  let process := ControlBlock.init image.boundary image.boundary
  ⟨.ok process, { s with process := some process, memory := ⟨image.cells.toArray⟩ },
    [.scheduled image.boundary image.cells.length]⟩

/-- The short-term scheduler. -/
def dispatch (s : Kernel) : Outcome Unit :=
  match s.process with
  | none => ⟨.error .notScheduled, s, []⟩
  | some p =>
    let process := (p.goto 0).withState .ready
    ⟨.ok (), { s with processor := s.processor.reset, process := some process },
      [.dispatched process]⟩

def boot (config : Config) (path : String) (contents : Except ReadError String) : Outcome Unit :=
  ((init config).load path contents).andThen fun _ s => s.schedule.andThen fun _ s => s.dispatch

end Kernel

end CellMachine
