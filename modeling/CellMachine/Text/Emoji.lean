import CellMachine.Text.EmojiTable
import CellMachine.Text.Ligature

/-!
Emoji sequences: flags, skin tones, keycaps and emoji that a zero width joiner makes one. Like
ligatures they are read from the end; a whole sequence takes the two columns of an emoji.
-/

namespace CellMachine.Text

def isEmoji (c : Char) : Bool := inRanges c.toNat emojiRanges

/-- A variation selector after the character can ask for its emoji form. -/
def isSelectable (c : Char) : Bool := inRanges c.toNat selectableRanges

/-- A variation selector can make the character narrow: an emoji with a text form, unless it
encloses an ideograph. -/
def isNarrowable (c : Char) : Bool :=
  isSelectable c && isEmoji c && !(0x1F200 ≤ c.toNat && c.toNat ≤ 0x1F2FF)

/-- Half of a flag. -/
def isRegionalIndicator (c : Char) : Bool := 0x1F1E6 ≤ c.toNat && c.toNat ≤ 0x1F1FF

def isSkinTone (c : Char) : Bool := 0x1F3FB ≤ c.toNat && c.toNat ≤ 0x1F3FF

def isTagLetter (c : Char) : Bool := 0xE0061 ≤ c.toNat && c.toNat ≤ 0xE007A

def isTagDigit (c : Char) : Bool := 0xE0030 ≤ c.toNat && c.toNat ≤ 0xE0039

/-- The end of an emoji sequence as it stands to the right of a character. -/
inductive EmojiEnd where
  /-- A whole emoji. -/
  | whole
  | skinTone
  /-- The last half of a flag. -/
  | half
  /-- More than one half of flags. -/
  | halves
  /-- A joiner in front of an emoji. -/
  | joined
  /-- A keycap in front of a joiner. -/
  | keycap
  /-- One half of a flag in front of a joiner. -/
  | joinedHalf
  /-- Whole flags in front of a joiner, of which the last is joined. -/
  | joinedFlags
  /-- Whole flags and a half in front of a joiner, where the last half stays alone. -/
  | joinedHalves
  /-- The tags of a flag in front of a joiner, so far their end and this many letters. -/
  | tagLetters (count : Nat)
  /-- The tags of a flag in front of a joiner, so far this many digits before the letters. -/
  | tagDigits (count : Nat)
deriving DecidableEq, Repr

namespace EmojiEnd

def ofChar? (c : Char) : Option EmojiEnd :=
  if isRegionalIndicator c then some half
  else if isSkinTone c then some skinTone
  else if isEmoji c then some whole
  else none

/-- A selected emoji in front of it becomes part of the sequence. -/
def spansSelectors : EmojiEnd → Bool
  | joined | keycap => true
  | _ => false

/-- A joiner in front of it ties it to the emoji before. -/
def joins : EmojiEnd → Bool
  | whole | skinTone | halves | joinedFlags | joinedHalves => true
  | _ => false

/-- The columns that a character adds in front of a sequence's end, and the end the two are then
together; `none` if the character has no part in the sequence. -/
def extend? (c : Char) (e : EmojiEnd) : Option (Int × EmojiEnd) :=
  if c = zeroWidthJoiner then
    if e.joins then some (0, joined) else none
  else
    match e with
    | whole | keycap => none
    | skinTone => if inRanges c.toNat modifierBaseRanges then some (0, whole) else none
    | half | halves => if isRegionalIndicator c then some (1, halves) else none
    | joined =>
      if c = '\u20e3' then some (0, keycap)
      else if isRegionalIndicator c then some (1, joinedHalf)
      else if isSkinTone c then some (0, skinTone)
      else if c.toNat = 0xE007F then some (0, tagLetters 0)
      else if isEmoji c then some (0, whole)
      else none
    | joinedHalf | joinedHalves => if isRegionalIndicator c then some (-1, joinedFlags) else none
    | joinedFlags => if isRegionalIndicator c then some (3, joinedHalves) else none
    | tagLetters k =>
      if isTagLetter c && k < 6 then some (0, tagLetters (k + 1))
      else if isTagDigit c && k ≤ 4 then some (0, tagDigits 1)
      else if c.toNat = 0x1F3F4 && 3 ≤ k then some (0, whole)
      else none
    | tagDigits k =>
      if isTagDigit c && k < 3 then some (0, tagDigits (k + 1))
      else if c.toNat = 0x1F3F4 && k = 3 then some (0, whole)
      else none

end EmojiEnd

end CellMachine.Text
