import Peg.Snippet.Source
import Peg.Span
import Peg.Text.Blank

/-!
# Marks on lines

What is to be pointed out in a source, and how it falls on single lines. A part of the source that
goes over several lines is opened on its first line and closed on its last one, with a stroke beside
the lines between. Strokes of parts that overlap stand at different depths.
-/

namespace Peg.Snippet

open Peg.Text

/-- A part of a source to be pointed out, with a label. The primary one is what a report is
about. -/
structure Annotation where
  span : Span
  label : String
  primary : Bool
  deriving DecidableEq, Repr

/-- What a mark on a line stands for. -/
inductive MarkShape where
  | single
  /-- The start of a part over several lines, whose stroke stands at a depth. -/
  | opens (depth : Nat)
  /-- The end of a part over several lines. -/
  | closes (depth : Nat)
  /-- A line between the start and the end of a part. -/
  | passes (depth : Nat)
  deriving DecidableEq, Repr

/-- A mark from one column of a line to another. -/
structure Mark where
  shape : MarkShape
  start : Nat
  stop : Nat
  /-- The number of characters in front of the mark. -/
  startChar : Nat
  /-- The number of characters up to its end. -/
  stopChar : Nat
  primary : Bool
  label : Option String
  deriving DecidableEq, Repr

namespace Mark

/-- Whether there is text to be shown with the mark. -/
def hasLabel (m : Mark) : Bool :=
  match m.label with
  | some label => !label.isEmpty
  | none => false

/-- Whether the mark is an end of a part over several lines. -/
def isEnd (m : Mark) : Bool :=
  match m.shape with
  | .opens _ | .closes _ => true
  | .single | .passes _ => false

/-- The number of columns of the mark. -/
def width (m : Mark) : Nat :=
  (m.stop - m.start) + (m.start - m.stop)

end Mark

/-- A part over several lines. -/
structure Region where
  start : Place
  stop : Place
  depth : Nat
  primary : Bool
  label : String
  /-- Whether another part has the same ends. -/
  coincides : Bool
  deriving DecidableEq, Repr

namespace Region

/-- Whether two parts have the same ends. -/
def sameExtent (r s : Region) : Bool :=
  r.start = s.start && r.stop = s.stop

/-- Whether two parts have a line in common. -/
def meets (r s : Region) : Bool :=
  (s.start.line ≤ r.start.line && r.start.line ≤ s.stop.line) ||
    (r.start.line ≤ s.start.line && s.start.line ≤ r.stop.line)

/-- Move the first parts deeper as long as they meet a given one, which has `before` parts in front
of it. Of parts with the same ends, the last one is not changed. -/
def moveAside (r : Region) (primaries : List (Place × Place)) (before : Nat) :
    List Region → List Region
  | [] => []
  | s :: rest =>
    if !r.sameExtent s && r.meets s then
      { s with depth := s.depth + 1 } :: moveAside r primaries (before - 1) rest
    else if r.sameExtent s && 0 < before then
      { s with coincides := true } :: moveAside r primaries (before - 1) rest
    else { s with primary := s.primary || primaries.contains (s.start, s.stop) } :: rest

/-- Move all parts aside for each other. The pending ones have `before` parts in front of them. -/
def settle (before : Nat) (pending : List Region) (primaries : List (Place × Place))
    (regions : List Region) : List Region :=
  match pending with
  | [] => regions
  | r :: rest =>
    let primaries := if r.primary then (r.start, r.stop) :: primaries else primaries
    settle (before + 1) rest primaries (moveAside r primaries before regions)

/-- The greatest depth of parts. -/
def maxDepth (regions : List Region) : Nat :=
  regions.foldl (fun depth r => max depth r.depth) 0

/-- Parts in order of their lines, at depths at which they do not overlap. The outermost part has
depth one. -/
def arrange (regions : List Region) : List Region :=
  let sorted := regions.mergeSort fun r s =>
    r.start.line < s.start.line || (r.start.line = s.start.line && s.stop.line ≤ r.stop.line)
  let settled := settle 0 sorted [] sorted
  settled.map fun r => { r with depth := maxDepth settled - r.depth + 1 }

/-- The mark on the first line. -/
def opening (r : Region) : Mark :=
  ⟨.opens r.depth, r.start.column, r.start.column + 1, r.start.chars, r.start.chars + 1, r.primary,
    none⟩

/-- The mark on the last line, with the label. Parts with the same ends are marked there only. -/
def closing (r : Region) : Mark :=
  ⟨if r.coincides then .single else .closes r.depth, r.stop.column - 1, r.stop.column,
    r.stop.chars - 1, r.stop.chars, r.primary, some r.label⟩

/-- The mark on a line between the ends. -/
def passing (r : Region) : Mark :=
  ⟨.passes r.depth, 0, 0, 0, 0, r.primary, none⟩

/-- A text without the white space around it. -/
def trim (cs : List Char) : List Char :=
  ((cs.dropWhile isBlank).reverse.dropWhile isBlank).reverse

/-- Whether a line says something: it is neither a plain comment nor blank nor a single bracket. -/
def isTelling (line : List Char) : Bool :=
  let text := trim line
  let isComment := text.take 2 = ['/', '/'] && text.take 3 ≠ ['/', '/', '/'] &&
    text.take 3 ≠ ['/', '/', '!']
  !isComment && !(["", "\x7b", "\x7d", "(", ")", "[", "]"].contains (String.ofList text))

/-- The text of the line with a number. -/
def line? (lines : List SourceLine) (number : Nat) : Option (List Char) :=
  (lines.find? fun l => l.number = number).map SourceLine.chars

/-- The lines between the ends that are shown. At most three lines follow the first one, without
those at their end that say nothing, and the line before the last one is shown if it says
something. -/
def passedLines (lines : List SourceLine) (r : Region) : List Nat :=
  let first := r.start.line
  let middle := min (first + 4) r.stop.line
  let telling := (List.range' first (middle - first)).filter fun number =>
    ((line? lines number).map isTelling).getD false
  let limit := ((telling.getLast?).map (· + 1)).getD first
  let shownFirst := List.range' (first + 1) (limit - (first + 1))
  let last := r.stop.line - 1
  let tells := ((line? lines last).map isTelling).getD true
  shownFirst ++ if middle < last && tells then [last] else []

/-- The marks of a part, each with the number of its line. -/
def marks (lines : List SourceLine) (r : Region) : List (Nat × Mark) :=
  let inner := if r.coincides then [] else
    (r.start.line, r.opening) :: (passedLines lines r).map fun number => (number, r.passing)
  inner ++ [(r.stop.line, r.closing)]

end Region

/-- An annotation as a mark on a single line or as a part over several lines. An empty mark is
widened to one column. -/
def locate (lines : List SourceLine) (a : Annotation) : (Nat × Mark) ⊕ Region :=
  let (first, last) := places lines a.span.start a.span.stop
  if first.line = last.line then
    let stop := if first.column = last.column then last.column + 1 else last.column
    .inl (first.line,
      ⟨.single, first.column, stop, first.chars, last.chars, a.primary, some a.label⟩)
  else .inr ⟨first, last, 1, a.primary, a.label, false⟩

/-- A line with the marks on it. -/
structure MarkedLine where
  line : SourceLine
  marks : List Mark
  deriving Repr

/-- The lines that annotations leave marks on, and the greatest depth of a part over several
lines. -/
def markedLines (lines : List SourceLine) (annotations : List Annotation) :
    List MarkedLine × Nat :=
  let located := annotations.map (locate lines)
  let singles := located.filterMap fun
    | .inl mark => some mark
    | .inr _ => none
  let regions := Region.arrange (located.filterMap fun
    | .inl _ => none
    | .inr region => some region)
  let marks := singles ++ regions.flatMap (Region.marks lines)
  let marked := lines.map fun line =>
    (⟨line, (marks.filter fun m => m.1 = line.number).map Prod.snd⟩ : MarkedLine)
  (marked.filter fun l => !l.marks.isEmpty, Region.maxDepth regions)

end Peg.Snippet
