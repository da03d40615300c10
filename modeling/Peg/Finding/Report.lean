import Peg.Finding
import Peg.Snippet

/-!
# Reports

How findings are shown: one line each, or with the source around their places when the source is
known.
-/

namespace Peg

open Peg.Text

/-- How a report is written. -/
structure Report where
  /-- The text that the places of the findings are in. -/
  source : Option String
  /-- The name of the file that holds the text. -/
  path : Option String
  colored : Bool
  /-- Whether the numbers of errors and warnings follow at the end. -/
  summary : Bool
  deriving DecidableEq, Repr

namespace Report

/-- The part of a text to be marked for a span. An empty span marks one byte, if there is one. -/
def marked (size : Nat) (span : Span) : Span :=
  if span.isEmpty then ⟨span.start, min (span.start + 1) size⟩ else span

/-- A finding with its source. Its own place is the primary one, and its notes are further ones. -/
def snippet (r : Report) (source : String) (f : Finding) : Snippet :=
  let size := source.utf8ByteSize
  { severity := f.severity
    message := f.message
    source := source
    path := r.path
    annotations := ⟨marked size f.span, f.message, true⟩ ::
      f.notes.map fun note => ⟨marked size note.span, note.text, false⟩ }

/-- A finding as a part of a report. -/
def renderFinding (r : Report) (f : Finding) : String :=
  match r.source with
  | some source => (r.snippet source f).render r.colored
  | none => f.render

/-- A report on findings. -/
def render (r : Report) (findings : List Finding) : String :=
  "\n".intercalate (findings.map r.renderFinding) ++
    if r.summary && !findings.isEmpty then "\n" ++ Findings.summary findings else ""

end Report

end Peg
