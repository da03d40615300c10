import Peg.Analysis
import Peg.Program
import Peg.Regex.Search

/-!
# From grammars to programs

Every rule that the parser needs becomes a rule of the program, in the same order. A reference to
such a rule becomes a call of it, and a reference to any other rule is replaced by its body.
-/

namespace Peg

/-- Why no parser can be generated from a grammar. -/
inductive LoweringError where
  | missingRoot
  | unknownRoot (name : String)
  | undefinedReference (name : String) (span : Span)
  | highlightReference (name : String) (span : Span)
  | unsupportedElement (found : String) (span : Span)
  | invalidPattern (pattern : String) (cause : Regex.PatternError) (span : Span)
  | inlineCycle (name : String) (span : Span)
  | program (cause : ProgramError)
  deriving DecidableEq, Repr

namespace LoweringError

/-- What is reported when no parser can be generated. -/
def message : LoweringError → String
  | .missingRoot => "no root rule configured"
  | .unknownRoot name => s!"root rule `{name}` is not a parser rule"
  | .undefinedReference name _ => s!"`{name}` is not defined"
  | .highlightReference name _ =>
    s!"`{name}` is a highlight definition and cannot be called from a parser rule"
  | .unsupportedElement found _ => s!"{found} cannot appear in a parser rule"
  | .invalidPattern pattern cause _ => s!"invalid pattern `/{pattern}/`: {cause.message}"
  | .inlineCycle name _ => s!"inline definition `{name}` expands into itself"
  | .program cause => cause.message

/-- The place that is reported, if there is one. -/
def span? : LoweringError → Option Span
  | .undefinedReference _ s | .highlightReference _ s | .unsupportedElement _ s
  | .invalidPattern _ _ s | .inlineCycle _ s => some s
  | .missingRoot | .unknownRoot _ | .program _ => none

end LoweringError

/-- The name under which failures of a definition are reported: its error name if it has one. -/
def Definition.errorLabel (d : Definition) : String :=
  ((d.property? "error_name").bind Value.asText?).getD d.name

namespace Marker

/-- The operation of a marker on the body that it stands in front of. Failures are reported under a
label. -/
def lower (label : String) (body : Combinator) : Marker → Combinator
  | .drop => .drop body
  | .terminal decode => .terminal decode body
  | .inline => body
  | .promoteError => .errorName label true body
  | .nameAsError => .errorName label false body

end Marker

namespace Element

/-- The operation of an element. References are left to `follow`, and failures are reported under a
label. -/
def lower (label : String) (follow : Reference → Except LoweringError Combinator) :
    Element → Except LoweringError Combinator
  | .text _ content => .ok (.literal content)
  | .regex span pattern times =>
    match Regex.compile pattern with
    | .ok _ => .ok (.pattern pattern times)
    | .error cause => .error (.invalidPattern pattern cause span)
  | .number span digits => .error (.unsupportedElement (describe (.number span digits)) span)
  | .boolean span value => .error (.unsupportedElement (describe (.boolean span value)) span)
  | .reference span name => follow ⟨name, span⟩
  | .sequence _ left right => do
    let left ← left.lower label follow
    let right ← right.lower label follow
    return .sequence left right
  | .choice _ left right => do
    let left ← left.lower label follow
    let right ← right.lower label follow
    return .choice left right
  | .optional _ body => do return (← body.lower label follow).optional
  | .zeroOrMore _ body => do return (← body.lower label follow).zeroOrMore
  | .oneOrMore _ body => do return (← body.lower label follow).oneOrMore
  | .not _ body => do return .not (← body.lower label follow)
  | .marked _ marker body => do return marker.lower label (← body.lower label follow)

end Element

namespace Grammar

/-- The operation of a reference, where `callable` are the rules of the program and the definitions
in `expanding` are being expanded. At most `budget` expansions can be nested. -/
def lowerReference (g : Grammar) (callable : List Nat) :
    Nat → List Nat → Reference → Except LoweringError Combinator
  | 0, _, r => .error (.inlineCycle r.name r.span)
  | budget + 1, expanding, r =>
    match g.find? r.name with
    | none => .error (.undefinedReference r.name r.span)
    | some d =>
      if d.kind = .highlight then .error (.highlightReference r.name r.span)
      else
        match callable.idxOf? d.id with
        | some place => .ok (.call (.ofPlace place))
        | none =>
          if expanding.contains d.id then .error (.inlineCycle r.name r.span)
          else d.body.lower d.errorLabel (g.lowerReference callable budget (d.id :: expanding))

/-- The rule of a program for a definition that the parser needs. -/
def lowerRule (g : Grammar) (a : Analysis) (root : Nat) (d : Definition) :
    Except LoweringError Rule := do
  let body ← d.body.lower d.errorLabel (g.lowerReference a.callable (g.size + 1) [])
  return ⟨d.name, body, d.id == root || a.isRelevant d.id⟩

/-- The program that parses what a grammar describes. -/
def lower (g : Grammar) (a : Analysis) : Except LoweringError Program :=
  match a.root with
  | none => .error .missingRoot
  | some root => do
    let rules ← (a.callable.filterMap g.get?).mapM (g.lowerRule a root)
    match Program.ofRules rules (.ofPlace ((a.callable.idxOf? root).getD 0)) with
    | .ok program => return program
    | .error cause => throw (.program cause)

end Grammar

end Peg
