import CellMachine.Assembly.Program
import CellMachine.Console.Command
import CellMachine.Kernel.Run
import CellMachine.Kernel.Schedule
import CellMachine.Table.Views

/-!
What a command amounts to: an exit code, and the texts for standard output and standard error. A
failure is reported on standard error, after whatever was printed before it.
-/

namespace CellMachine

structure Report where
  exitCode : Nat
  output : String
  errors : String
deriving DecidableEq, Repr

namespace Report

def line (s : String) : String := s ++ "\n"

def unlines (ls : List String) : String := String.join (ls.map line)

def success (output : String) : Report := ⟨0, output, ""⟩

def failure (output message : String) : Report := ⟨1, output, line s!"error: {message}"⟩

/-- The program broke down after printing `output`. -/
def breakdown (output message : String) : Report := ⟨101, output, line message⟩

/-- Help was asked for and goes to standard output; other words are an error. -/
def ofUsage : Usage → Report
  | .help text => ⟨0, text, ""⟩
  | .invalid text => ⟨2, "", text⟩

end Report

namespace Command

open Report

def banner : String := "Computation Tracing ENABLED"

def traceText (trace : List Event) : String := unlines (trace.map Event.text)

/-- Boots the program in a file and runs it: the trace, the kernel afterwards even if the run
failed, and the number of cycles. Nothing if a run without a budget goes on beyond `limit` cycles. -/
def runReport (typeset : Typesetter) (limit : Nat) (config : Config) (path : String)
    (contents : Except ReadError String) : Option Report :=
  let boot := Kernel.boot config path contents
  let start := line banner ++ traceText boot.trace
  match boot.result with
  | .error e => some (failure start e.message)
  | .ok () =>
    (boot.kernel.run limit).map fun o =>
      let output := start ++ traceText o.trace
      match o.kernel.display typeset with
      | .error message => breakdown output message
      | .ok shown =>
        let output := output ++ line shown
        match o.result with
        | .error e => failure output e.message
        | .ok summary => success (output ++ line s!"Halted after {summary.cycles} cycles.")

def assembleReport (contents : Except ReadError String) : Report :=
  match contents with
  | .error e => failure "" e.message
  | .ok source =>
    match Assembly.image source with
    | .error d => failure "" d.message
    | .ok lines => success (unlines lines)

/-- Carries out a command, given what reading its file yielded. -/
def report (typeset : Typesetter) (limit : Nat) (contents : Except ReadError String) :
    Command → Option Report
  | run path flags => runReport typeset limit flags.config path contents
  | assemble _ => some (assembleReport contents)

/-- The whole program: reads the words, the one file that they name, and reports. -/
def respond {m : Type → Type} [Monad m] (parse : ArgumentReader) (typeset : Typesetter)
    (limit : Nat) (read : String → m (Except ReadError String)) (words : List String) :
    m (Option Report) :=
  match parse words with
  | .error usage => pure (some (.ofUsage usage))
  | .ok command => return command.report typeset limit (← read command.path)

end Command

end CellMachine
