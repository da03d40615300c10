import Peg.Text.Offset

/-!
# Lines and columns

Conversion of byte offsets to the one-based lines and columns that messages show. Columns count
characters. Lines end at line feeds only.
-/

namespace Peg.Text

/-- A one-based line and column. -/
structure Position where
  line : Nat
  column : Nat
  deriving DecidableEq, Repr

/-- A position as messages show it. -/
def Position.render (p : Position) : String :=
  s!"{p.line}:{p.column}"

/-- A text with the offsets at which its lines start. -/
structure LineIndex where
  chars : List Char
  lineStarts : List Nat
  deriving Repr

namespace LineIndex

/-- The offsets behind each line feed of `cs`, which starts at `offset`. -/
def startsFrom (offset : Nat) : List Char → List Nat
  | [] => []
  | c :: cs =>
    let next := offset + c.utf8Size
    if c = '\n' then next :: startsFrom next cs else startsFrom next cs

/-- The index of a text. The first line starts at offset zero. -/
def ofChars (cs : List Char) : LineIndex :=
  ⟨cs, 0 :: startsFrom 0 cs⟩

/-- The index of a text. -/
def ofText (text : String) : LineIndex :=
  ofChars text.toList

/-- The number of lines. -/
def lineCount (index : LineIndex) : Nat :=
  index.lineStarts.length

/-- The position of an offset. An offset past the end means the end, and one inside a character
means that character. -/
def position (index : LineIndex) (offset : Nat) : Position :=
  let target := floorOffset index.chars offset
  let started := index.lineStarts.takeWhile (· ≤ target)
  let column := (slice index.chars (started.getLastD 0) target).length
  ⟨started.length, column + 1⟩

end LineIndex

end Peg.Text
