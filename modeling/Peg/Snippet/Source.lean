import Peg.Text.Offset
import Peg.Text.Width

/-!
# Lines of a source

The lines of a text with their places in it, and the lines and columns of offsets as they are shown.
-/

namespace Peg.Snippet

open Peg.Text

/-- A line of a text. -/
structure SourceLine where
  /-- The number of the line, from one on. -/
  number : Nat
  chars : List Char
  /-- The offset of the first character. -/
  start : Nat
  /-- The offset behind the last character. -/
  stop : Nat
  /-- The offset behind the line end. -/
  next : Nat
  deriving Repr

/-- The characters up to the first line feed, and those behind it if there is one. -/
def cutLine : List Char → List Char × Option (List Char)
  | [] => ([], none)
  | c :: rest =>
    if c = '\n' then ([], some rest)
    else
      let (line, after?) := cutLine rest
      (c :: line, after?)

/-- The lines of a text, of which the first has the given number and offset. A carriage return in
front of a line feed belongs to the line end. At most `budget` lines are cut off. -/
def linesFrom (number start : Nat) : Nat → List Char → List SourceLine
  | 0, _ => []
  | _ + 1, [] => []
  | budget + 1, c :: cs =>
    match cutLine (c :: cs) with
    | (line, none) =>
      let stop := start + byteLength line
      [⟨number, line, start, stop, stop⟩]
    | (line, some rest) =>
      let next := start + byteLength line + 1
      let text := if line.getLast? = some '\r' then line.dropLast else line
      ⟨number, text, start, start + byteLength text, next⟩ ::
        linesFrom (number + 1) next budget rest

/-- The lines of a text. An empty text has a single empty line. -/
def sourceLines (text : List Char) : List SourceLine :=
  match linesFrom 1 0 text.length text with
  | [] => [⟨1, [], 0, 0, 0⟩]
  | lines => lines

/-- A place in a text: the line, the number of characters before it in the line, and the number of
columns that these take. -/
structure Place where
  line : Nat
  chars : Nat
  column : Nat
  deriving DecidableEq, Repr

/-- The line that an offset is in. Behind the end of the text this is the last line. -/
def lineAt (lines : List SourceLine) (offset : Nat) : SourceLine :=
  ((lines.find? fun l => l.start ≤ offset && offset < l.next).or lines.getLast?).getD
    ⟨1, [], 0, 0, 0⟩

/-- The place of an offset in its line. -/
def placeIn (line : SourceLine) (offset : Nat) : Place :=
  let before := takeBytes line.chars (floorOffset line.chars (offset - line.start))
  ⟨line.number, before.length, textColumns before⟩

/-- The place at which a span starts. Behind the end of a line there is one more character. -/
def startPlace (lines : List SourceLine) (offset : Nat) : Place :=
  let line := lineAt lines offset
  let place := placeIn line offset
  if line.stop < offset then { place with chars := place.chars + 1 } else place

/-- The places at which a span that is not empty starts and ends. A span that goes on behind the end
of a later line covers one more column there. -/
def places (lines : List SourceLine) (start stop : Nat) : Place × Place :=
  let first := startPlace lines start
  if start = stop then (first, first)
  else
    let line := lineAt lines stop
    let last := placeIn line stop
    if first.line ≠ last.line && line.stop < stop then
      (first, { last with chars := last.chars + 1, column := last.column + 1 })
    else (first, last)

end Peg.Snippet
