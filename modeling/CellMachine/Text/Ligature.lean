import CellMachine.Text.LigatureTable
import CellMachine.Text.Ranges

/-!
Ligatures of letters, in which several characters share the columns of one. A text is read from its
end, since the last letter of a ligature settles which characters before it belong to it.
-/

namespace CellMachine.Text

def zeroWidthJoiner : Char := '\u200d'

/-- The end of a ligature as it stands to the right of a character. `joined` says that a zero width
joiner stands in front of the letter. -/
inductive LigatureEnd where
  /-- Arabic alef, which a lam takes up. -/
  | alef
  /-- Hebrew lamed, joined to an alef. -/
  | lamed (joined : Bool)
  /-- Buginese ya, joined to the vowel i. -/
  | ya (joined : Bool)
  /-- Buginese i and ya, which follow the letter a. -/
  | vowelYa
  /-- A Tifinagh consonant, joined to another. -/
  | consonant (joined : Bool)
  /-- The Tifinagh consonant joiner and a consonant. -/
  | joinerConsonant
  /-- The second tone letter of a Lisu pair. -/
  | toneLetter
  /-- Old Turkic i, joined to the letter M. -/
  | orkhonI (joined : Bool)
  /-- A Khmer letter that can stand below another. -/
  | subjoined
deriving DecidableEq, Repr

namespace LigatureEnd

def ofChar? (c : Char) : Option LigatureEnd :=
  let n := c.toNat
  if inRanges n alefs then some alef
  else if n = 0x5DC then some (lamed false)
  else if inRanges n subjoinedLetters then some subjoined
  else if n = 0x1A10 then some (ya false)
  else if inRanges n tifinaghConsonants then some (consonant false)
  else if n = 0xA4FC || n = 0xA4FD then some toneLetter
  else if n = 0x10C03 then some (orkhonI false)
  else none

/-- Neither a joiner in front of it nor a mark that a reader may ignore breaks the ligature. -/
def spansMarks : LigatureEnd → Bool
  | alef => false
  | _ => true

def join : LigatureEnd → LigatureEnd
  | lamed _ => lamed true
  | ya _ => ya true
  | consonant _ => consonant true
  | orkhonI _ => orkhonI true
  | l => l

/-- The columns that a letter adds in front of a ligature's end, and the end the two are then
together; `none` if the letter has no part in the ligature. -/
def attach? (c : Char) (l : LigatureEnd) : Option (Int × Option LigatureEnd) :=
  let n := c.toNat
  match l with
  | alef =>
    if inRanges n lams then some (0, none)
    else if inRanges n transparentRanges then some (0, some alef)
    else none
  | lamed true => if n = 0x5D0 then some (0, none) else none
  | ya true => if n = 0x1A17 then some (0, some vowelYa) else none
  | vowelYa => if n = 0x1A15 then some (0, none) else none
  | consonant joined =>
    if n = 0x2D7F then some (1, some joinerConsonant)
    else if joined && inRanges n tifinaghConsonants then some (0, none)
    else none
  | joinerConsonant => if inRanges n tifinaghConsonants then some (-1, none) else none
  | toneLetter => if 0xA4F8 ≤ n && n ≤ 0xA4FB then some (0, none) else none
  | orkhonI true => if n = 0x10C32 then some (0, none) else none
  | subjoined => if n = 0x17D2 then some (-1, none) else none
  | lamed false | ya false | orkhonI false => none

/-- As `attach?`, where joiners and marks may stand between the letters. -/
def extend? (c : Char) (l : LigatureEnd) : Option (Int × Option LigatureEnd) :=
  if l.spansMarks && c = zeroWidthJoiner then some (0, some l.join)
  else if l.spansMarks && inRanges c.toNat ignorableMarks then some (0, some l)
  else l.attach? c

end LigatureEnd

end CellMachine.Text
