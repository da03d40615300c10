import Peg.Message
import Peg.Snippet.Drawing

/-!
# Snippets

A message with the lines of the source that it is about, in which the places that matter are marked
and labelled.
-/

namespace Peg

open Peg.Text

/-- A message with its source and what to point out in it. -/
structure Snippet where
  severity : Severity
  message : String
  source : String
  /-- The name of the file that holds the source. -/
  path : Option String
  annotations : List Snippet.Annotation
  deriving Repr

namespace Snippet

/-- The number of columns of a terminal. -/
def terminalColumns : Nat := 140

/-- The style of a severity. -/
def styleOf : Severity → Style
  | .error => .error
  | .warning => .warning

/-- The lines of a text, without the line feeds between them. -/
def textLines (text : List Char) : Nat → List (List Char)
  | 0 => [text]
  | budget + 1 =>
    match cutLine text with
    | (line, none) => [line]
    | (line, some rest) => line :: textLines rest budget

/-- The message with its severity. Further lines of the message are aligned with the first. -/
def titleRows (s : Snippet) : Canvas :=
  let word := s.severity.word.toList
  let text := shown s.message.toList
  match textLines text text.length with
  | [] => []
  | first :: rest =>
    let head := Row.append (Row.append [] word (styleOf s.severity)) [':', ' '] .heading
    head.append first .heading :: rest.map fun line =>
      Row.append (Row.append [] (List.replicate (word.length + 2) ' ') .plain) line .heading

/-- The number of the last line that is needed. It decides on the room for line numbers. A line
that a span only reaches the start of is not needed. -/
def lastLineNumber (s : Snippet) : Nat :=
  let source := s.source.toList
  let stop := (s.annotations.map fun a => a.span.stop).max?.getD (byteLength source)
  let needed := takeBytes source (floorOffset source stop)
  let feeds := needed.count '\n'
  if needed.getLast? = some '\n' then feeds else feeds + 1

/-- The row that names the file and the place of the first primary mark. -/
def originRow (digits : Nat) (path : String) (lines : List MarkedLine) : Row :=
  let primary := lines.filterMap fun l => (l.marks.find? Mark.primary).map fun m => (l.line, m)
  let place := match primary with
    | (line, mark) :: _ => s!":{line.number}:{mark.startChar + 1}"
    | [] => ""
  let row := Row.append [] (List.replicate digits ' ') .plain
  (row.append ['-', '-', '>', ' '] .margin).append (path ++ place).toList .plain

/-- Draw strokes beside rows. -/
def drawStrokes (f : Frame) (strokes : List Stroke) (rows : Canvas) : Canvas :=
  rows.map fun row => strokes.foldl (fun row s => row.put (f.stroke s.depth) ⟨'|', s.style⟩) row

/-- The strokes that go on and those that start when strokes are toggled in turn. A stroke ends the
first time that its depth is toggled, and starts the next time. -/
def toggle (strokes : List Stroke) : List Stroke → List Stroke × List Stroke
  | [] => (strokes, [])
  | t :: rest =>
    if strokes.any fun s => s.depth = t.depth then
      toggle (strokes.filter fun s => s.depth ≠ t.depth) rest
    else
      let (kept, started) := toggle strokes rest
      (kept, t :: started)

/-- What stands for the lines between two marked lines: a single one is shown, and more are left
out. -/
def gapRows (f : Frame) (lines : List SourceLine) (line next : SourceLine) : Canvas :=
  if next.number = line.number + 2 then
    ((lines.find? fun l => l.number = line.number + 1).map fun l => (f.sourceRow l).1).toList
  else if line.number + 2 < next.number then [Row.write [] 0 ellipsis .margin]
  else []

/-- Draw marked lines and what is between them, given the strokes that come from the lines above. -/
def drawLines (f : Frame) (lines : List SourceLine) (strokes : List Stroke) :
    List MarkedLine → Canvas
  | [] => []
  | l :: rest =>
    let (rows, toggled) := f.drawLine l
    let (kept, started) := toggle strokes toggled
    let opened := (l.marks.filter fun m => m.shape matches .opens _).filterMap f.strokeOf?
    let gap := match rest with
      | [] => []
      | next :: _ => drawStrokes f (kept ++ opened) (gapRows f lines l.line next.line)
    drawStrokes f kept rows ++ gap ++ drawLines f lines (kept ++ started) rest

/-- A snippet as rows. -/
def draw (s : Snippet) : Canvas :=
  let lines := sourceLines s.source.toList
  let (marked, depth) := markedLines lines s.annotations
  let digits := (toString s.lastLineNumber).length
  let offset := digits + 3
  let room := terminalColumns - (if depth = 0 then offset else offset + depth + 1)
  let f : Frame := ⟨digits, depth, Margin.fit (Margin.extent marked) room, styleOf s.severity⟩
  let origin := s.path.map fun path => originRow digits path marked
  s.titleRows ++ origin.toList ++ [f.barRow] ++ drawLines f lines [] marked

/-- A snippet as a text, with or without colors. -/
def render (colored : Bool) (s : Snippet) : String :=
  s.draw.render colored

end Snippet

end Peg
