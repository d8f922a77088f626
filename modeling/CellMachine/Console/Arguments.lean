import CellMachine.Console.Command
import CellMachine.Numeral

/-!
The reader of arguments: `run <program>` with switches for the machine, `assemble <source>`, and
requests for help. Words are read from left to right and the first one that does not fit decides.
-/

namespace CellMachine

namespace Command

def programHelp : String := "Runs and assembles programs for the cortex virtual machine

Usage: cortex-vm <COMMAND>

Commands:
  run       Load a program file and run it until it halts
  assemble  Assemble mnemonic source into program file lines
  help      Print this message or the help of the given subcommand(s)

Options:
  -h, --help  Print help
"

def runHelp : String := "Load a program file and run it until it halts

Usage: cortex-vm run [OPTIONS] <PROGRAM>

Arguments:
  <PROGRAM>  Program file, one memory cell per line

Options:
      --legacy-halt              Treat HLT as a no-op
      --direct-jumps             Jump to the address field itself instead of the word stored there
      --dedicated-ir             Keep fetched instructions out of register 2
      --max-cycles <MAX_CYCLES>  Stop with an error after this many cycles
  -h, --help                     Print help
"

def assembleHelp : String := "Assemble mnemonic source into program file lines

Usage: cortex-vm assemble <SOURCE>

Arguments:
  <SOURCE>  Assembly source

Options:
  -h, --help  Print help
"

def misused : Usage := .invalid "For more information, try '--help'.\n"

/-- A number of cycles: decimal digits, perhaps after a plus sign. -/
def maxCycles? (s : String) : Option UInt64 :=
  let digits :=
    match s.toList with
    | '+' :: rest => rest
    | rest => rest
  ((Numeral.natural? 10 digits).filter (· < UInt64.size)).map UInt64.ofNat

structure Words where
  path : Option String := none
  flags : Flags := {}
  /-- After `--` every word is a path. -/
  escaped : Bool := false

namespace Words

def addPath (w : Words) (s : String) : Except Usage Words :=
  if w.path.isSome || s.isEmpty then .error misused else .ok { w with path := some s }

def addMaxCycles (w : Words) (s : String) : Except Usage Words :=
  match w.flags.maxCycles, maxCycles? s with
  | none, some n => .ok { w with flags := { w.flags with maxCycles := some n } }
  | _, _ => .error misused

/-- A switch may be given once. -/
def addSwitch (w : Words) (s : String) : Except Usage Words :=
  let f := w.flags
  if s = "--legacy-halt" && !f.legacyHalt then
    .ok { w with flags := { f with legacyHalt := true } }
  else if s = "--direct-jumps" && !f.directJumps then
    .ok { w with flags := { f with directJumps := true } }
  else if s = "--dedicated-ir" && !f.dedicatedRegister then
    .ok { w with flags := { f with dedicatedRegister := true } }
  else .error misused

end Words

/-- What a word looks like, before `--`. -/
inductive Shape where
  | escape
  | help
  | maxCyclesOption
  | maxCyclesValue (value : String)
  | option
  | plain

/-- A single dash is a path, and `-h` asks for help whatever letters follow it. -/
def shape (s : String) : Shape :=
  match s.toList with
  | ['-'] => .plain
  | ['-', '-'] => .escape
  | '-' :: '-' :: _ =>
    if s = "--help" then .help
    else if s = "--max-cycles" then .maxCyclesOption
    else
      let start := "--max-cycles=".toList
      if start.isPrefixOf s.toList then .maxCyclesValue (String.ofList (s.toList.drop start.length))
      else .option
  | '-' :: 'h' :: _ => .help
  | '-' :: _ => .option
  | _ => .plain

/-- Reads the words of a subcommand; `switches` says whether it takes any, and `help` is its help. -/
def words (switches : Bool) (help : String) : Words → List String → Except Usage Words
  | w, [] => .ok w
  | w, s :: rest =>
    if w.escaped then do words switches help (← w.addPath s) rest
    else
      match shape s with
      | .plain => do words switches help (← w.addPath s) rest
      | .escape => words switches help { w with escaped := true } rest
      | .help => .error (.help help)
      | .option =>
        if switches then do words switches help (← w.addSwitch s) rest else .error misused
      | .maxCyclesValue v =>
        if switches then do words switches help (← w.addMaxCycles v) rest else .error misused
      | .maxCyclesOption =>
        match switches, rest with
        | true, v :: rest =>
          match shape v with
          | .plain => do words switches help (← w.addMaxCycles v) rest
          | _ => .error misused
        | _, _ => .error misused

def helpOn : List String → Usage
  | [] | ["help"] => .help programHelp
  | ["run"] => .help runHelp
  | ["assemble"] => .help assembleHelp
  | _ => misused

def parse : ArgumentReader
  | [] => .error misused
  | "run" :: rest => do
    let w ← words true runHelp {} rest
    match w.path with
    | some path => .ok (.run path w.flags)
    | none => .error misused
  | "assemble" :: rest => do
    let w ← words false assembleHelp {} rest
    match w.path with
    | some path => .ok (.assemble path)
    | none => .error misused
  | "help" :: rest => .error (helpOn rest)
  | s :: _ =>
    match shape s with
    | .help => .error (.help programHelp)
    | _ => .error misused

end Command

end CellMachine
