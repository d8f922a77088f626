import CellMachine.Assembly.Statement
import CellMachine.Instruction.Codec

/-!
Assembly source, one statement a line. A percent sign starts a comment, and lines that are empty
without it are passed over. `parse` reads statements only; `image` also knows the line `data`, after
which every line is a data word, and yields the lines of a program file.
-/

namespace CellMachine.Assembly

open Text

/-- A line without its comment. -/
def code (line : List Char) : List Char := before '%' line

def isVoid (s : List Char) : Bool := trim isWhite s == []

/-- The instructions of consecutive lines, the first of which has number `n`. -/
def instructions (n : Nat) : List (List Char) → Except Diagnostic (List Instruction)
  | [] => .ok []
  | line :: rest =>
    if isVoid (code line) then instructions (n + 1) rest
    else
      match instruction (code line) with
      | .error d => .error ⟨n, d⟩
      | .ok i => (instructions (n + 1) rest).map (i :: ·)

/-- The instructions of a source without data. -/
def parse (source : String) : Except Diagnostic (List Instruction) :=
  instructions 1 (lines source.toList)

def assemble (source : String) : Except Diagnostic (List UInt32) :=
  (parse source).map (·.map Instruction.encode)

/-- The line that a program file has in place of the line `data`. -/
def boundaryLine : String := "// DATA"

def instructionLine (i : Instruction) : String :=
  String.ofList (Numeral.hexadecimalWord i.encode)

def dataLine (v : Int32) : String := String.ofList (Numeral.decimal v.toInt)

/-- The line after which data begins, in any mixture of capitals. -/
def isDataMarker (s : List Char) : Bool := s.map Char.toLower == ['d', 'a', 't', 'a']

def dataWords (n : Nat) : List (List Char) → Except Diagnostic (List Int32)
  | [] => .ok []
  | line :: rest =>
    let text := trim isWhite (code line)
    if text = [] then dataWords (n + 1) rest
    else
      match (Numeral.read? text).bind Numeral.dataWord? with
      | none => .error ⟨n, .unreadable (String.ofList text)⟩
      | some v => (dataWords (n + 1) rest).map (v :: ·)

/-- A program: its instructions and, if it has a data section, its data words. -/
structure Program where
  instructions : List Instruction
  data : Option (List Int32)
deriving DecidableEq, Repr

/-- The program of consecutive lines, the first of which has number `n`. Statements are read without
white space around them. -/
def programFrom (n : Nat) : List (List Char) → Except Diagnostic Program
  | [] => .ok ⟨[], none⟩
  | line :: rest =>
    let text := trim isWhite (code line)
    if text = [] then programFrom (n + 1) rest
    else if isDataMarker text then (dataWords (n + 1) rest).map fun data => ⟨[], some data⟩
    else
      match instruction text with
      | .error d => .error ⟨n, d⟩
      | .ok i =>
        (programFrom (n + 1) rest).map fun p => { p with instructions := i :: p.instructions }

def program (source : String) : Except Diagnostic Program := programFrom 1 (lines source.toList)

def Program.lines (p : Program) : List String :=
  p.instructions.map instructionLine ++
    match p.data with
    | none => []
    | some data => boundaryLine :: data.map dataLine

/-- Assembles a source to the lines of a program file. -/
def image (source : String) : Except Diagnostic (List String) := (program source).map Program.lines

end CellMachine.Assembly
