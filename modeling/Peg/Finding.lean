import Peg.Message
import Peg.Span

/-!
# Findings

What an analysis has to say about a grammar: the kind of the problem, its place, and notes on other
places that have to do with it.
-/

namespace Peg

open Peg.Text

/-- The kinds of findings, the most severe first. -/
inductive FindingKind where
  | inlineCycle
  | undefinedReference
  | unknownOption
  | unknownProperty
  | unusedDefinition
  | shadowedScope
  deriving DecidableEq, Repr

namespace FindingKind

/-- All kinds in their order. -/
def all : List FindingKind :=
  [.inlineCycle, .undefinedReference, .unknownOption, .unknownProperty, .unusedDefinition,
    .shadowedScope]

/-- The number of kinds that are more severe or stand before it. -/
def rank (kind : FindingKind) : Nat :=
  all.idxOf kind

/-- Only a cycle stops the grammar from being used. -/
def severity : FindingKind → Severity
  | .inlineCycle => .error
  | .undefinedReference | .unknownOption | .unknownProperty | .unusedDefinition
  | .shadowedScope => .warning

/-- The message of a finding without a detail. -/
def title : FindingKind → String
  | .inlineCycle => "inline definitions form a cycle"
  | .undefinedReference => "undefined reference"
  | .unknownOption => "unknown option"
  | .unknownProperty => "unknown property"
  | .unusedDefinition => "definition is never used"
  | .shadowedScope => "scope is shadowed by the inner scope"

/-- The message of a finding with a detail. -/
def detailed (detail : String) : FindingKind → String
  | .inlineCycle => s!"inline definitions form a cycle: {detail}"
  | .undefinedReference => s!"`{detail}` is not defined"
  | .unknownOption => s!"unknown option `{detail}`"
  | .unknownProperty => s!"unknown property `{detail}`"
  | .unusedDefinition => s!"`{detail}` is never used"
  | .shadowedScope => s!"scope is shadowed by the inner scope: {detail}"

/-- The message of a finding. -/
def message (kind : FindingKind) : Option String → String
  | none => kind.title
  | some detail => kind.detailed detail

end FindingKind

/-- A remark on a place other than that of the finding. -/
structure Note where
  text : String
  span : Span
  deriving DecidableEq, Repr

/-- A problem with its place. -/
structure Finding where
  kind : FindingKind
  span : Span
  message : String
  notes : List Note
  deriving DecidableEq, Repr

namespace Finding

/-- A finding with a detail and without notes. -/
def detailed (kind : FindingKind) (span : Span) (detail : String) : Finding :=
  ⟨kind, span, kind.detailed detail, []⟩

/-- How serious a finding is. -/
def severity (f : Finding) : Severity :=
  f.kind.severity

/-- Whether the finding is an error. -/
def isError (f : Finding) : Bool :=
  f.severity == .error

/-- The message with its place in the text of the grammar, without the notes. -/
def toMessage (index : LineIndex) (f : Finding) : Message :=
  ⟨f.severity, f.message, index.position f.span.start⟩

/-- A note as part of a line. -/
def renderNote (note : Note) : String :=
  s!" (related: {note.text} at {note.span.render})"

/-- A finding as one line, for use without the text of the grammar. -/
def render (f : Finding) : String :=
  s!"{f.severity.word} at {f.span.render}: {f.message}" ++
    String.join (f.notes.map renderNote)

end Finding

namespace Findings

/-- The number of findings of a severity. -/
def count (severity : Severity) (findings : List Finding) : Nat :=
  findings.countP fun f => f.severity == severity

/-- Whether there is an error among the findings. -/
def hasErrors (findings : List Finding) : Bool :=
  findings.any Finding.isError

/-- A number of things, in words. -/
def counted (n : Nat) (word : String) : String :=
  if n = 1 then s!"1 {word}" else s!"{n} {word}s"

/-- The numbers of errors and of warnings, without those that are zero. -/
def summary (findings : List Finding) : String :=
  match count .error findings, count .warning findings with
  | 0, 0 => "no problems"
  | errors, 0 => counted errors "error"
  | 0, warnings => counted warnings "warning"
  | errors, warnings => counted errors "error" ++ ", " ++ counted warnings "warning"

end Findings

end Peg
