import Peg.Text.Position

/-!
# Messages

What the author of a grammar or of an input is told: how serious it is, what is wrong, and where.
-/

namespace Peg

open Peg.Text

/-- How serious a message is. -/
inductive Severity where
  | error
  | warning
  deriving DecidableEq, Repr

/-- The word that names a severity. -/
def Severity.word : Severity → String
  | .error => "error"
  | .warning => "warning"

/-- A text with its severity and position. -/
structure Message where
  severity : Severity
  text : String
  position : Position
  deriving DecidableEq, Repr

namespace Message

/-- An error at a position. -/
def error (text : String) (position : Position) : Message :=
  ⟨.error, text, position⟩

/-- Whether the message reports an error. -/
def isError (m : Message) : Bool :=
  m.severity == .error

/-- A message as one line. -/
def render (m : Message) : String :=
  s!"{m.position.render}: {m.severity.word}: {m.text}"

end Message

end Peg
