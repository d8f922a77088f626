import CellMachine.Text.CaseTable
import CellMachine.Text.Ranges

/-!
Full Unicode lower case, and search without regard to case.

Only two characters need more than their own mapping: U+0130 becomes two characters, and a capital
sigma becomes a final sigma when a letter stands before it and none after it, where characters that
have no say in case are passed over.
-/

namespace CellMachine.Text

def isCaseIgnorable (c : Char) : Bool := inRanges c.toNat caseIgnorable

def isCased (c : Char) : Bool := inRanges c.toNat cased

/-- The lower case of one character, whatever stands around it. -/
def lowerChar (c : Char) : List Char :=
  if c.toNat < 0x80 then [c.toLower]
  else if c.toNat = 0x130 then ['i', Char.ofNat 0x307]
  else
    match lowerRuns.find? (·.covers c.toNat) with
    | some r => [Char.ofNat (r.apply c.toNat)]
    | none => [c]

/-- The first character that is not passed over is a letter. -/
def startsCased (s : List Char) : Bool :=
  match s.dropWhile isCaseIgnorable with
  | [] => false
  | c :: _ => isCased c

/-- The lower case of a text that follows `earlier`, of which the nearest character comes first. -/
def lowerAfter (earlier : List Char) : List Char → List Char
  | [] => []
  | c :: s =>
    (if c = 'Σ' then (if startsCased earlier && !startsCased s then ['ς'] else ['σ'])
      else lowerChar c) ++ lowerAfter (c :: earlier) s

def lower (s : List Char) : List Char := lowerAfter [] s

def occursIn (needle : List Char) : List Char → Bool
  | [] => needle.isEmpty
  | c :: s => needle.isPrefixOf (c :: s) || occursIn needle s

/-- Substring search in which both sides are lower-cased first. -/
def containsIgnoreCase (s needle : List Char) : Bool := occursIn (lower needle) (lower s)

@[simp] theorem lower_nil : lower [] = [] := rfl

theorem lowerChar_of_ascii {c : Char} (h : c.toNat < 0x80) : lowerChar c = [c.toLower] := by
  simp [lowerChar, h]

theorem occursIn_iff (needle s : List Char) : occursIn needle s = true ↔ needle <:+: s := by
  induction s with
  | nil => simp [occursIn]
  | cons c s ih => simp [occursIn, ih, List.infix_cons_iff]

end CellMachine.Text
