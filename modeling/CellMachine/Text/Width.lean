import CellMachine.Text.Emoji
import CellMachine.Text.Quoted
import CellMachine.Text.WidthTable

/-!
The number of columns a text takes in a table.

A character has a width of its own, which the characters after it can change: a ligature, an emoji
sequence or a variation selector counts as one. From the sum goes what a terminal swallows: after an
escape character, a bracket and everything up to the next `m` select a style and take no column. They
are taken off one by one, also where they share their columns, so that more can go than there is; such
a text has no width.
-/

namespace CellMachine.Text

/-- The width of a character that stands alone. The Khmer sign U+17D8 is an abbreviation of three
letters. -/
def charWidth (c : Char) : Nat :=
  if c.toNat = 0x17D8 then 3
  else if inRanges c.toNat zeroWidthRanges then 0
  else if inRanges c.toNat wideRanges then 2
  else 1

/-- General category `Cc`. -/
def isControl (c : Char) : Bool := c.toNat < 0x20 || (0x7F ≤ c.toNat && c.toNat < 0xA0)

inductive Presentation where
  | text
  | emoji
deriving DecidableEq, Repr

def Presentation.ofChar? (c : Char) : Option Presentation :=
  if c = '\ufe0e' then some .text
  else if c = '\ufe0f' then some .emoji
  else none

/-- What the beginning of a text can join to a character in front of it. -/
inductive Joinable where
  | nothing
  | ligature (l : LigatureEnd)
  | emoji (e : EmojiEnd)
deriving DecidableEq, Repr

namespace Joinable

/-- What a character offers by itself to the character in front of it. -/
def ofChar (c : Char) : Joinable :=
  match LigatureEnd.ofChar? c, EmojiEnd.ofChar? c with
  | some l, _ => ligature l
  | none, some e => emoji e
  | none, none => nothing

/-- The width of a character in front, and what the two can join then. -/
def extend (c : Char) (j : Joinable) : Int × Joinable :=
  let joint : Option (Int × Joinable) :=
    match j with
    | nothing => none
    | ligature l => (l.extend? c).map fun (w, l) => (w, l.elim nothing ligature)
    | emoji e => (e.extend? c).map fun (w, e) => (w, emoji e)
  joint.getD (charWidth c, ofChar c)

/-- What can still be joined across a variation selector. -/
def behind (p : Presentation) : Joinable → Joinable
  | ligature l => ligature l
  | emoji e => if p = .emoji && e.spansSelectors then emoji e else nothing
  | nothing => nothing

/-- What can still be joined across a variation selector by a character that it does not select. -/
def unselected : Joinable → Joinable
  | ligature l => ligature l
  | _ => nothing

end Joinable

/-- What a character can find on its right: a variation selector or none, and what comes after. -/
structure Opening where
  selector : Option Presentation := none
  rest : Joinable := .nothing
deriving DecidableEq, Repr

namespace Opening

def place (c : Char) (j : Joinable) : Int × Opening :=
  match Presentation.ofChar? c with
  | some p => (0, ⟨some p, j.behind p⟩)
  | none =>
    let (w, j) := j.extend c
    (w, ⟨none, j⟩)

/-- The width of a character in front of a text, and how the longer text opens. -/
def extend (c : Char) (o : Opening) : Int × Opening :=
  match o.selector with
  | none => place c o.rest
  | some .text => if isNarrowable c then (1, {}) else place c o.rest.unselected
  | some .emoji =>
    if isSelectable c then
      let w := match o.rest with
        | .emoji _ => 0
        | _ => 2
      (w, ⟨none, .emoji .whole⟩)
    else place c o.rest.unselected

end Opening

/-- The columns of a text without styles, and how it opens. -/
def measure (s : List Char) : Int × Opening :=
  s.foldr (fun c (w, o) => let (v, o) := o.extend c; (v + w, o)) (0, {})

inductive StyleScan where
  | plain
  | escaped
  | styling
deriving DecidableEq, Repr

namespace StyleScan

/-- The state after `c`, and whether `c` belongs to a style sequence. -/
def step (s : StyleScan) (c : Char) : StyleScan × Bool :=
  match s with
  | plain => (if c = '\x1b' then escaped else plain, false)
  | escaped => if c = '[' then (styling, true) else (plain, false)
  | styling => (if c = 'm' then plain else styling, true)

/-- The number of visible characters in the style sequences of a text that is met in the given
state. -/
def hidden : StyleScan → List Char → Nat
  | _, [] => 0
  | s, c :: rest =>
    let (next, styles) := s.step c
    (if styles && !isControl c && 0 < charWidth c then 1 else 0) + hidden next rest

end StyleScan

/-- The columns of a text; its style sequences take none, their escape characters excepted. -/
def width (s : List Char) : Except String Nat :=
  let columns := (measure s).1.toNat
  let hidden := StyleScan.hidden .plain s
  if hidden ≤ columns then .ok (columns - hidden)
  else
    let text := String.ofList (quote s)
    .error s!"internal error: width {columns} less than hidden {hidden} on string {text}"

end CellMachine.Text
