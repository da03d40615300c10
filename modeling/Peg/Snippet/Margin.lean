import Peg.Snippet.Mark

/-!
# Visible columns

Long lines are cut so that they fit on a terminal. What is cut depends on where the marks and their
labels are.
-/

namespace Peg.Snippet

open Peg.Text

/-- The columns that are shown of the lines of a snippet. -/
structure Margin where
  left : Nat
  right : Nat
  /-- The number of columns that there is room for. -/
  room : Nat
  deriving DecidableEq, Repr

namespace Margin

/-- The columns that are used by white space at the start of all lines and in front of all marks, by
marks and by labels. -/
structure Extent where
  blankLeft : Nat
  markLeft : Nat
  markRight : Nat
  labelRight : Nat
  lineRight : Nat
  deriving DecidableEq, Repr

/-- The least of some numbers, or zero if there are none. -/
def least (numbers : List Nat) : Nat :=
  numbers.min?.getD 0

/-- The greatest of some numbers, or zero if there are none. -/
def greatest (numbers : List Nat) : Nat :=
  numbers.max?.getD 0

/-- The columns of the white space at the start of a line that is not blank. -/
def blankStart? (line : List Char) : Option Nat :=
  if line.all isBlank then none
  else some ((line.takeWhile isBlank).foldl (fun n c => n + if c = '\t' then 4 else 1) 0)

/-- The column behind the label of a mark when it stands beside the mark. -/
def labelStop (m : Mark) : Nat :=
  m.stop + ((m.label.map fun label => textColumns label.toList + 1).getD 0)

/-- The columns that marked lines use. -/
def extent (lines : List MarkedLine) : Extent :=
  let marks := lines.flatMap MarkedLine.marks
  let markLeft := least (marks.flatMap fun m => [m.start, m.stop])
  { blankLeft := min (least (lines.filterMap fun l => blankStart? l.line.chars)) markLeft
    markLeft := markLeft
    markRight := greatest (marks.flatMap fun m => [m.start, m.stop])
    labelRight := greatest (marks.map labelStop)
    lineRight := greatest (lines.map fun l => textColumns l.line.chars) }

/-- The columns to show when there is room for a number of them. Some columns are left free around
the marks. White space is cut first, then what is far from labels, then what is far from marks. -/
def fit (e : Extent) (room : Nat) : Margin :=
  let free := 6
  let blankLeft := e.blankLeft - free
  let markLeft := e.markLeft - free
  let markRight := e.markRight + free
  let labelRight := e.labelRight + free
  let left := if 20 < blankLeft then blankLeft - 16 else 0
  let right := max e.lineRight left
  if right - left ≤ room then ⟨left, right, room⟩
  else if labelRight - blankLeft ≤ room then ⟨blankLeft, blankLeft + room, room⟩
  else if labelRight - markLeft ≤ room then
    let left := markLeft - (room - (labelRight - markLeft)) / 2
    ⟨left, left + room, room⟩
  else if markRight - markLeft ≤ room then
    let left := markLeft - (room - (markRight - markLeft)) / 5 * 2
    ⟨left, left + room, room⟩
  else ⟨markLeft, markRight, room⟩

/-- The first column that is shown of a line. -/
def leftOf (m : Margin) (width : Nat) : Nat :=
  min m.left width

/-- The column behind the last one that is shown of a line. -/
def rightOf (m : Margin) (width : Nat) : Nat :=
  if width - m.left ≤ m.room then width else min width m.right

end Margin

end Peg.Snippet
