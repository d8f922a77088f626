import CellMachine.Numeral
import CellMachine.Text.Lowercase

/-!
Cells, the addressable units of memory. A cell is text: an instruction word, a data word, or a marker
that is neither. Its two readings are taken from the text whenever they are needed.
-/

namespace CellMachine

structure Cell where
  text : String
deriving DecidableEq, Repr

namespace Cell

def dataMarker : Cell := ⟨"data"⟩

def endMarker : Cell := ⟨"end"⟩

/-- A data word as the machine writes it, in decimal. -/
def ofWord (v : Int32) : Cell := ⟨String.ofList (Numeral.decimal v.toInt)⟩

def numeral? (c : Cell) : Option Numeral := Numeral.read? c.text.toList

def instructionWord? (c : Cell) : Option UInt32 := c.numeral?.bind Numeral.instructionWord?

def dataWord? (c : Cell) : Option Int32 := c.numeral?.bind Numeral.dataWord?

/-- The text contains `needle`, without regard to case. -/
def contains (c : Cell) (needle : String) : Bool :=
  Text.containsIgnoreCase c.text.toList needle.toList

/-- The first line of a program file may name the job. -/
def isJobHeader (c : Cell) : Bool := c.contains "job"

def isDataMarker (c : Cell) : Bool := c.contains "data"

end Cell

end CellMachine
