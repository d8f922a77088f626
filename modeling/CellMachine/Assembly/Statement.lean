import CellMachine.Assembly.Diagnostic
import CellMachine.Instruction.Basic
import CellMachine.Text.Lines

/-!
One statement: a name, a suffix that forces a layout, and a list of arguments in parentheses, the
last two optional. Reading settles the form only; resolving settles what the name means and whether
the arguments fit.
-/

namespace CellMachine.Assembly

open Text

def isNameChar (c : Char) : Bool := c.isAlphanum

structure Statement where
  name : List Char
  suffix : Option Nat
  arguments : Option (List UInt32)
deriving DecidableEq, Repr

namespace Statement

/-- The suffix at the head of a text, if there is one, and what follows. A suffix is a number below
256. -/
def suffix? (s : List Char) : Option (Option Nat × List Char) :=
  let number (s : List Char) : Option (Option Nat × List Char) :=
    (Numeral.natural? 10 (s.takeWhile Numeral.isDigit)).bind fun n =>
      if n < 256 then some (some n, s.dropWhile Numeral.isDigit) else none
  match s with
  | '.' :: 't' :: rest => number rest
  | '.' :: 'T' :: rest => number rest
  | rest => some (none, rest)

/-- Arguments that stand between commas, possibly none at all. -/
def list? (s : List Char) : Option (List UInt32) :=
  if trim isInlineBlank s = [] then some []
  else (splitOn ',' s).mapM fun piece => Numeral.argument? (trim isInlineBlank piece)

/-- The rest of a statement after its name and suffix: nothing, or a list in parentheses. -/
def arguments? (s : List Char) : Option (Option (List UInt32)) :=
  match s with
  | [] => some none
  | '(' :: rest => if rest.getLast? = some ')' then (list? rest.dropLast).map some else none
  | _ => none

/-- Reads a whole text as one statement, with blanks around it. -/
def read? (s : List Char) : Option Statement :=
  let s := trim isInlineBlank s
  let name := s.takeWhile isNameChar
  if name = [] then none
  else
    (suffix? (s.dropWhile isNameChar)).bind fun (suffix, rest) =>
      (arguments? (trimLeft isInlineBlank rest)).map fun arguments => ⟨name, suffix, arguments⟩

def upperName (st : Statement) : List Char := st.name.map Char.toUpper

/-- The opcode that a name stands for: a mnemonic, or `OP` and a number below 64. -/
def opcode? (st : Statement) : Option UInt8 :=
  match Operation.ofMnemonic? (String.ofList st.upperName) with
  | some o => some o.code
  | none =>
    match st.upperName with
    | 'O' :: 'P' :: rest =>
      (Numeral.natural? 10 rest).bind fun n => if n < 64 then some (UInt8.ofNat n) else none
    | _ => none

/-- The layout of a suffix or, without one, the layout the operation is meant for. -/
def layout? (st : Statement) (opcode : UInt8) : Option Layout :=
  match st.suffix with
  | some n => Layout.ofCode? n
  | none =>
    match Operation.ofCode? opcode with
    | some o => some o.layout
    | none => some .arithmetic

/-- The arguments, where an absent or empty list stands for zeros. -/
def values (st : Statement) (layout : Layout) : List UInt32 :=
  match st.arguments with
  | some (v :: vs) => v :: vs
  | _ => List.replicate layout.arity 0

/-- The first argument that its field cannot hold. -/
def overflow? : List Field → List UInt32 → Option Defect
  | f :: fs, v :: vs => if v.toNat < 1 <<< f.width then overflow? fs vs else some (.overflow f v)
  | _, _ => none

/-- The instruction that a statement means. The text it was read from is quoted if its suffix is no
layout. -/
def resolve (st : Statement) (text : String) : Except Defect Instruction :=
  match st.opcode? with
  | none => .error (.notAnOperation (String.ofList st.name))
  | some opcode =>
    match st.layout? opcode with
    | none => .error (.unreadable text)
    | some layout =>
      let values := st.values layout
      if values.length ≠ layout.arity then
        .error (.wrongArity (String.ofList st.upperName) layout values.length)
      else
        match overflow? layout.fields values with
        | some d => .error d
        | none => .ok (.ofOperands layout opcode values)

end Statement

def instruction (s : List Char) : Except Defect Instruction :=
  let text := String.ofList (trim isWhite s)
  match Statement.read? s with
  | none => .error (.unreadable text)
  | some st => st.resolve text

end CellMachine.Assembly
