/-!
# Layout of generated code

Generated code is a list of lines. Lines inside a block are indented.
-/

namespace Peg.Code

/-- A line one level further to the right. An empty line stays empty. -/
def indent (line : String) : String :=
  if line.isEmpty then line else "    " ++ line

/-- A head with the lines that belong to it between braces. -/
def block (head : String) (body : List String) : List String :=
  (head ++ " \x7b") :: body.map indent ++ ["\x7d"]

/-- The lines of a text, without the line feeds between them. -/
def splitLines : List Char → List (List Char)
  | [] => [[]]
  | c :: rest =>
    if c = '\n' then [] :: splitLines rest
    else
      match splitLines rest with
      | [] => [[c]]
      | line :: lines => (c :: line) :: lines

/-- A line without the carriage return at its end. -/
def dropReturn (line : List Char) : List Char :=
  if line.getLast? = some '\r' then line.dropLast else line

/-- The lines that show when a line holds line ends of its own. -/
def physicalLines (line : String) : List String :=
  (splitLines line.toList).map fun l => String.ofList (dropReturn l)

/-- Lines as a text, each with a line feed at its end. -/
def unlines (lines : List String) : String :=
  String.join (lines.map (· ++ "\n"))

end Peg.Code
