import Peg.Snippet.Canvas
import Peg.Snippet.Margin
import Peg.Snippet.Placement

/-!
# Drawing lines with their marks

A line of a source is drawn with its number in front of it, and its marks, strokes and labels below
it.
-/

namespace Peg.Snippet

open Peg.Text

/-- What all lines of a snippet have in common. -/
structure Frame where
  /-- The number of digits that there is room for in line numbers. -/
  digits : Nat
  /-- The number of strokes beside the source. -/
  depth : Nat
  margin : Margin
  /-- The style of what the report is about. -/
  main : Style
  deriving Repr

/-- What shows that a part of a line is left out. -/
def ellipsis : List Char :=
  ['.', '.', '.']

/-- The text behind a number of columns, and the number of columns in front of it. -/
def skipColumns (left skipped : Nat) : List Char → List Char × Nat
  | [] => ([], skipped)
  | c :: cs =>
    if skipped < left then skipColumns left (skipped + columns c) cs else (c :: cs, skipped)

/-- The text that fits into a number of columns. -/
def takeColumns (room : Nat) : List Char → List Char
  | [] => []
  | c :: cs => if columns c ≤ room then c :: takeColumns (room - columns c) cs else []

/-- The characters at the start of a text that make room for an ellipsis. -/
def underEllipsis (filled : Nat) : List Char → List Char
  | [] => []
  | c :: cs =>
    let filled := filled + columns c
    if ellipsis.length ≤ filled then [c] else c :: underEllipsis filled cs

namespace Frame

/-- The column of the bar behind the line numbers. -/
def bar (f : Frame) : Nat :=
  f.digits + 1

/-- The column of the first stroke. -/
def strokes (f : Frame) : Nat :=
  f.digits + 3

/-- The column of the stroke at a depth. -/
def stroke (f : Frame) (depth : Nat) : Nat :=
  f.strokes + depth - 1

/-- The column of the source. -/
def code (f : Frame) : Nat :=
  if f.depth = 0 then f.strokes else f.strokes + f.depth + 1

/-- The style of a mark. -/
def style (f : Frame) (m : Mark) : Style :=
  if m.primary then f.main else .note

/-- A row with nothing but the bar. -/
def barRow (f : Frame) : Row :=
  Row.put [] f.bar ⟨'|', .margin⟩

/-- The row for a line of the source, and the number of columns that are cut off on its left. -/
def sourceRow (f : Frame) (l : SourceLine) : Row × Nat :=
  let text := shown l.chars
  let width := textColumns text
  let left := f.margin.leftOf width
  let right := f.margin.rightOf width
  let (rest, skipped) := skipColumns left 0 text
  let visible := takeColumns (right - left) rest
  let covered := if 0 < f.margin.left then underEllipsis 0 visible else []
  let column := f.code + textColumns covered
  let start := if 0 < f.margin.left then Row.write [] f.code ellipsis .margin else []
  let row := start.write column (visible.drop covered.length) .plain
  let row := if right < width then
    let hidden := (underEllipsis 0 visible.reverse).length
    row.write (column + (visible.length - covered.length) - hidden) ellipsis .margin
  else row
  let number := (toString l.number).toList
  let row := row.write 0 (List.replicate (f.digits - number.length) ' ' ++ number) .margin
  let surplus := textColumns covered - ellipsis.length
  (row.put f.bar ⟨'|', .margin⟩, max left skipped - surplus)

end Frame

/-- A line that is being drawn: the canvas, of which row zero is the source, and the number of
columns that are cut off on the left. -/
structure Drawing where
  frame : Frame
  left : Nat
  canvas : Canvas
  deriving Repr

namespace Drawing

/-- The column on the canvas for a column of the line. -/
def column (d : Drawing) (c : Nat) : Nat :=
  d.frame.code + c - d.left

/-- Draw with the mark's style at the place of a column of the line. -/
def put (d : Drawing) (row c : Nat) (char : Char) (m : Mark) : Drawing :=
  { d with canvas := d.canvas.put row (d.column c) char (d.frame.style m) }

/-- Draw the line from the stroke of a part to the mark at its end. -/
def drawLead (d : Drawing) (p : Placed) : Drawing :=
  match p.mark.shape with
  | .opens depth | .closes depth =>
    { d with
      canvas := d.canvas.across (p.row + 1) (d.frame.strokes + depth) (d.column p.mark.start) '_'
        (d.frame.style p.mark) }
  | .single | .passes _ => d

/-- Draw the line from a mark down to its label, if that is on another row. -/
def drawConnector (d : Drawing) (p : Placed) : Drawing :=
  if 0 < p.row && (p.mark.hasLabel || p.mark.isEnd) then
    { d with
      canvas := d.canvas.down 1 (p.row + 2) (d.column p.mark.start) '|' (d.frame.style p.mark) }
  else d

/-- Draw the stroke of a part beside the rows below its first line, or above its last mark. -/
def drawStroke (d : Drawing) (lastRow : Nat) (p : Placed) : Drawing :=
  let style := d.frame.style p.mark
  match p.mark.shape with
  | .opens depth =>
    let canvas := d.canvas.put (p.row + 1) (d.frame.stroke depth) ' ' style
    { d with canvas := canvas.down (p.row + 2) (lastRow + 2) (d.frame.stroke depth) '|' style }
  | .closes depth =>
    { d with canvas := d.canvas.down 0 (p.row + 2) (d.frame.stroke depth) '|' style }
  | .single | .passes _ => d

/-- Draw the label of a mark: behind the mark, or below its start. -/
def drawLabel (d : Drawing) (p : Placed) : Drawing :=
  match p.mark.label with
  | none => d
  | some label =>
    let (row, c) := if p.row = 0 then
      (1, (if p.mark.stop = 0 then 2 else p.mark.stop + 1) - d.left)
    else (p.row + 2, p.mark.start - d.left)
    { d with
      canvas := d.canvas.write row (d.frame.code + c) label.toList (d.frame.style p.mark) }

/-- Draw the mark itself. -/
def drawMark (d : Drawing) (p : Placed) : Drawing :=
  let sign := if p.mark.primary then '^' else '-'
  let d := (List.range' p.mark.start (p.mark.stop - p.mark.start)).foldl
    (fun d c => d.put 1 c sign p.mark) d
  if p.mark.isEnd || (0 < p.row && p.mark.hasLabel) then d.put 1 p.mark.start sign p.mark else d

/-- Cut out the middle of a mark that is much wider than the terminal, together with the source
above it. -/
def shorten (d : Drawing) (m : Mark) : Drawing :=
  let room := d.frame.margin.room
  if m.shape = .single && 10 < m.stop - m.start && room * 2 < m.stop - m.start then
    let pad := max (room / 3) 5
    let cut (row : Row) := row.replace (d.column m.start + pad) (d.column m.stop - pad) ellipsis
    { d with canvas := (d.canvas.modify 0 cut).modify 1 cut }
  else d

end Drawing

/-- A stroke that goes on beside the lines below. -/
structure Stroke where
  depth : Nat
  style : Style
  deriving DecidableEq, Repr

/-- The strokes that start or end at a mark. -/
def Frame.strokeOf? (f : Frame) (m : Mark) : Option Stroke :=
  match m.shape with
  | .opens depth | .closes depth => some ⟨depth, f.style m⟩
  | .single | .passes _ => none

/-- Whether nothing but white space stands in front of every part that is opened on a line, and
there are no other marks. -/
def opensAtStart (l : MarkedLine) : Bool :=
  l.marks.all fun m =>
    match m.shape with
    | .opens _ => ((shown l.line.chars).take m.start).all isBlank
    | .passes _ => true
    | .single | .closes _ => false

/-- Draw a line with its marks. The strokes that start or end on it are returned too. -/
def Frame.drawLine (f : Frame) (l : MarkedLine) : Canvas × List Stroke :=
  let (row, left) := f.sourceRow l.line
  if opensAtStart l then
    let strokes := (l.marks.filter Mark.isEnd).filterMap f.strokeOf?
    ([strokes.foldl (fun row s => row.put (f.stroke s.depth) ⟨'/', s.style⟩) row], strokes)
  else
    let placement := place l.marks
    let bars := List.replicate (placement.lastRow + 1) f.barRow
    let d : Drawing := ⟨f, left, row :: bars⟩
    let d := placement.placed.foldl Drawing.drawLead d
    let d := placement.placed.foldl
      (fun d p => (d.drawConnector p).drawStroke placement.lastRow p) d
    let d := placement.placed.foldl Drawing.drawLabel d
    let bySize := placement.placed.mergeSort fun a b =>
      b.mark.width < a.mark.width ||
        (a.mark.width = b.mark.width && (!a.mark.primary || b.mark.primary))
    let d := bySize.foldl Drawing.drawMark d
    let d := bySize.foldl (fun d p => d.shorten p.mark) d
    (d.canvas, bySize.filterMap fun p => f.strokeOf? p.mark)

end Peg.Snippet
