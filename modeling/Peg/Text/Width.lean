import Peg.Text.WidthTable

/-!
# Columns on a terminal

How wide characters are when they are shown, and what is shown for those that have no shape of their
own.
-/

namespace Peg.Text

/-- Whether the character is a control, which is shown as its picture. -/
def isControl (c : Char) : Bool :=
  c.toNat < 0x20 || c.toNat = 0x7f

/-- Whether the character changes the direction of text, and is shown as a replacement. -/
def isDirectional (c : Char) : Bool :=
  (0x202a ≤ c.toNat && c.toNat ≤ 0x202e) || (0x2066 ≤ c.toNat && c.toNat ≤ 0x2069)

/-- The number of columns of a character. A tab takes four, and the Khmer sign for "and so on" is
written as three letters. -/
def columns (c : Char) : Nat :=
  if c = '\t' then 4
  else if isControl c || isDirectional c then 1
  else if c.toNat = 0x17d8 then 3
  else if CodeRange.anyContains zeroWidthRanges c.toNat then 0
  else if CodeRange.anyContains doubleWidthRanges c.toNat then 2
  else 1

/-- The number of columns of a text. -/
def textColumns : List Char → Nat
  | [] => 0
  | c :: cs => columns c + textColumns cs

/-- What is shown for a character. Joiners are left out. -/
def shownChar (c : Char) : List Char :=
  if c = '\t' then [' ', ' ', ' ', ' ']
  else if c.toNat = 0x7f then ['␡']
  else if c.toNat < 0x20 && c ≠ '\n' then [Char.ofNat (0x2400 + c.toNat)]
  else if isDirectional c then ['\ufffd']
  else if c.toNat = 0x200d then []
  else [c]

/-- What is shown for a text. -/
def shown (cs : List Char) : List Char :=
  cs.flatMap shownChar

end Peg.Text
