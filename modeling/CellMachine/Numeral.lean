import CellMachine.Text.Blank

/-!
Numerals. A cell holds an integer in decimal, with an optional sign, or in hexadecimal behind `0x`;
its range is judged as an instruction word or as a data word. Words are written back in decimal, or
as eight hexadecimal digits.
-/

namespace CellMachine

/-- An integer as it was written. Only hexadecimal text may stand for a negative word by its bit
pattern, so the base is kept. -/
structure Numeral where
  hexadecimal : Bool
  value : Int
deriving DecidableEq, Repr

namespace Numeral

/-- The value of a digit to a base of at most sixteen; letters count in either case. -/
def digitValue (base : Nat) (c : Char) : Option Nat :=
  let n := c.toNat
  let d :=
    if 48 ≤ n ∧ n ≤ 57 then n - 48
    else if 65 ≤ n ∧ n ≤ 70 then n - 55
    else if 97 ≤ n ∧ n ≤ 102 then n - 87
    else 16
  if d < base then some d else none

def isDigit (c : Char) : Bool := (digitValue 10 c).isSome

/-- Reads on from a number whose digits so far have the value `acc`. -/
def naturalFrom (base acc : Nat) : List Char → Option Nat
  | [] => some acc
  | c :: s => (digitValue base c).bind fun d => naturalFrom base (base * acc + d) s

def natural? (base : Nat) : List Char → Option Nat
  | [] => none
  | c :: s => naturalFrom base 0 (c :: s)

def bare? : List Char → Option Numeral
  | '0' :: 'x' :: s => (natural? 16 s).map fun n => ⟨true, n⟩
  | '0' :: 'X' :: s => (natural? 16 s).map fun n => ⟨true, n⟩
  | '+' :: s => (natural? 10 s).map fun n => ⟨false, n⟩
  | '-' :: s => (natural? 10 s).map fun n => ⟨false, -n⟩
  | s => (natural? 10 s).map fun n => ⟨false, n⟩

/-- A numeral between blanks. -/
def read? (s : List Char) : Option Numeral := bare? (Text.trim Text.isCellBlank s)

def instructionWord? (m : Numeral) : Option UInt32 :=
  if 0 ≤ m.value ∧ m.value < UInt32.size then some (UInt32.ofNat m.value.toNat) else none

/-- The data word that a numeral denotes, if it fits. Hexadecimal text above the largest positive
word is the bit pattern of a negative one. -/
def dataWord? (m : Numeral) : Option Int32 :=
  if Int32.minValue.toInt ≤ m.value ∧ m.value ≤ Int32.maxValue.toInt then
    some (Int32.ofInt m.value)
  else if m.hexadecimal ∧ m.value < UInt32.size then some (Int32.ofInt (m.value - UInt32.size))
  else none

/-- An unsigned argument of a statement: decimal, or hexadecimal behind `0x`, below 2³². -/
def argument? (s : List Char) : Option UInt32 :=
  let value :=
    match s with
    | '0' :: 'x' :: s => natural? 16 s
    | '0' :: 'X' :: s => natural? 16 s
    | s => natural? 10 s
  value.bind fun n => if n < UInt32.size then some (UInt32.ofNat n) else none

/-- The decimal digits of a number, without leading zeros. -/
def digits (n : Nat) : List Char := Nat.toDigits 10 n

def decimal : Int → List Char
  | .ofNat n => digits n
  | .negSucc n => '-' :: digits (n + 1)

def hexDigit (n : Nat) : Char := if n < 10 then Char.ofNat (48 + n) else Char.ofNat (55 + n)

/-- The last `count` hexadecimal digits of a number, in capitals. -/
def hexDigits : (count : Nat) → Nat → List Char
  | 0, _ => []
  | count + 1, n => hexDigits count (n / 16) ++ [hexDigit (n % 16)]

def hexadecimalWord (w : UInt32) : List Char := '0' :: 'x' :: hexDigits 8 w.toNat

@[simp] theorem natural?_nil (base : Nat) : natural? base [] = none := rfl

@[simp] theorem naturalFrom_nil (base acc : Nat) : naturalFrom base acc [] = some acc := rfl

theorem naturalFrom_cons (base acc : Nat) (c : Char) (s : List Char) :
    naturalFrom base acc (c :: s) =
      (digitValue base c).bind fun d => naturalFrom base (base * acc + d) s := rfl

theorem naturalFrom_append (base acc : Nat) (s t : List Char) :
    naturalFrom base acc (s ++ t) =
      (naturalFrom base acc s).bind fun n => naturalFrom base n t := by
  induction s generalizing acc with
  | nil => rfl
  | cons c s ih =>
    simp only [List.cons_append, naturalFrom_cons, Option.bind_assoc, ih]

@[simp] theorem length_hexDigits (count n : Nat) : (hexDigits count n).length = count := by
  induction count generalizing n with
  | zero => rfl
  | succ count ih => simp [hexDigits, ih]

end Numeral

end CellMachine
