/-!
# Canvases

Rows of characters with styles, on which a report is drawn before it is written as a text.
-/

namespace Peg.Snippet

/-- What a character on a canvas belongs to. -/
inductive Style where
  | plain
  /-- The message of a report. -/
  | heading
  /-- Line numbers and what separates them from the source. -/
  | margin
  /-- What has the color of an error. -/
  | error
  /-- What has the color of a warning. -/
  | warning
  /-- What stands for a note. -/
  | note
  deriving DecidableEq, Repr

/-- The control sequence that switches a style on. The plain style has none. -/
def Style.code : Style → String
  | .plain => ""
  | .heading => "\x1b[1m"
  | .margin | .note => "\x1b[1m\x1b[94m"
  | .error => "\x1b[1m\x1b[91m"
  | .warning => "\x1b[1m\x1b[33m"

/-- The control sequence that ends a style. -/
def Style.reset (code : String) : String :=
  if code.isEmpty then "" else "\x1b[0m"

/-- A character with its style. -/
structure Cell where
  char : Char
  style : Style
  deriving DecidableEq, Repr

/-- A row of cells. -/
abbrev Row := List Cell

/-- Rows from top to bottom. -/
abbrev Canvas := List Row

/-- The cell that nothing has been drawn on. -/
def blank : Cell :=
  ⟨' ', .plain⟩

namespace Row

/-- Draw a cell at a column. -/
def put (row : Row) (column : Nat) (cell : Cell) : Row :=
  match row, column with
  | [], 0 => [cell]
  | [], column + 1 => blank :: put [] column cell
  | _ :: rest, 0 => cell :: rest
  | c :: rest, column + 1 => c :: put rest column cell

/-- Draw characters from a column on. -/
def write (row : Row) (column : Nat) (text : List Char) (style : Style) : Row :=
  match text with
  | [] => row
  | c :: rest => write (put row column ⟨c, style⟩) (column + 1) rest style

/-- Draw characters behind the last cell. -/
def append (row : Row) (text : List Char) (style : Style) : Row :=
  row ++ text.map fun c => ⟨c, style⟩

/-- Replace the cells between two columns by characters in the style of the margin. Nothing happens
if the row is too short. -/
def replace (row : Row) (start stop : Nat) (text : List Char) : Row :=
  if start = stop || row.length < start || row.length < stop then row
  else row.take start ++ text.map (fun c => ⟨c, .margin⟩) ++ row.drop stop

/-- The text of a row in one style after the other, given the control sequence in force. -/
def renderFrom (current : String) : Row → String
  | [] => Style.reset current
  | cell :: rest =>
    let code := cell.style.code
    if code = current then cell.char.toString ++ renderFrom current rest
    else Style.reset current ++ code ++ cell.char.toString ++ renderFrom code rest

/-- The text of a row, with or without colors. -/
def render (colored : Bool) (row : Row) : String :=
  if colored then renderFrom "" row else String.ofList (row.map Cell.char)

end Row

namespace Canvas

/-- Change a row, which is added if it is missing. -/
def modify (canvas : Canvas) (row : Nat) (f : Row → Row) : Canvas :=
  match canvas, row with
  | [], 0 => [f []]
  | [], row + 1 => [] :: modify [] row f
  | r :: rest, 0 => f r :: rest
  | r :: rest, row + 1 => r :: modify rest row f

/-- Draw a character. -/
def put (canvas : Canvas) (row column : Nat) (c : Char) (style : Style) : Canvas :=
  canvas.modify row fun r => r.put column ⟨c, style⟩

/-- Draw characters from a column on. -/
def write (canvas : Canvas) (row column : Nat) (text : List Char) (style : Style) : Canvas :=
  canvas.modify row fun r => r.write column text style

/-- Draw a character in all columns from `start` up to `stop`. -/
def across (canvas : Canvas) (row start stop : Nat) (c : Char) (style : Style) : Canvas :=
  canvas.write row start (List.replicate (stop - start) c) style

/-- Draw a character in all rows from `start` up to `stop`. -/
def down (canvas : Canvas) (start stop column : Nat) (c : Char) (style : Style) : Canvas :=
  (List.range' start (stop - start)).foldl (fun canvas row => canvas.put row column c style) canvas

/-- The text of a canvas, with or without colors. -/
def render (colored : Bool) (canvas : Canvas) : String :=
  "\n".intercalate (canvas.map (Row.render colored))

end Canvas

end Peg.Snippet
