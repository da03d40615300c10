import Peg.Highlight.Scope
import Peg.Highlight.ScopedPattern

/-!
# Patterns from definitions

A definition is turned into a single pattern by putting the bodies of other definitions in place of
the references to them. A choice cannot be expressed in this way, and neither can recursion.
-/

namespace Peg

/-- Why a definition cannot be used for highlighting. -/
inductive DerivationError where
  | choice (rule : String) (span : Span)
  | undefinedReference (name : String) (span : Span)
  | recursiveReference (name : String) (span : Span)
  | missingBeginEnd (rule : String) (span : Span)
  | invalidRuleReference (name : String) (span : Span)
  deriving DecidableEq, Repr

namespace DerivationError

/-- What is reported when a definition cannot be used for highlighting. -/
def message : DerivationError → String
  | .choice rule _ => s!"`{rule}` uses a choice, which a highlight pattern cannot express"
  | .undefinedReference name _ => s!"`{name}` is not defined"
  | .recursiveReference name _ =>
    s!"`{name}` refers to itself and cannot be expanded into a pattern"
  | .missingBeginEnd rule _ => s!"`{rule}` sets only one of `begin` and `end`"
  | .invalidRuleReference name _ => s!"`{name}` is not a highlight definition"

/-- The place that is reported. -/
def span : DerivationError → Span
  | .choice _ s | .undefinedReference _ s | .recursiveReference _ s | .missingBeginEnd _ s
  | .invalidRuleReference _ s => s

end DerivationError

/-- The pattern of an element in the definition named `rule`. References are left to `follow`. -/
def Element.derive (rule : String) (follow : Reference → Except DerivationError ScopedPattern) :
    Element → Except DerivationError ScopedPattern
  | .text _ content | .number _ content => .ok (.literal content)
  | .boolean _ value => .ok (.literal (if value then "true" else "false"))
  | .regex _ pattern times => .ok (.regex pattern times)
  | .reference span name => follow ⟨name, span⟩
  | .sequence _ left right => do
    let left ← left.derive rule follow
    let right ← right.derive rule follow
    return .sequence left right
  | .choice span _ _ => .error (.choice rule span)
  | .optional _ body => do return .repeated .optional (← body.derive rule follow)
  | .zeroOrMore _ body => do return .repeated .zeroOrMore (← body.derive rule follow)
  | .oneOrMore _ body => do return .repeated .oneOrMore (← body.derive rule follow)
  | .not _ body => do return .notAhead (← body.derive rule follow)
  | .marked _ _ body => body.derive rule follow

/-- The pattern of a reference to a definition, from that of its body: an inline definition does not
show its scope. -/
def Definition.enclose (d : Definition) (suffix : Option String) (body : ScopedPattern) :
    ScopedPattern :=
  if d.isInline then body
  else
    match d.scope? suffix with
    | some scope => .capture scope body
    | none => body

namespace Grammar

/-- The pattern of a reference while the definitions in `expanding` are being expanded. At most
`budget` expansions can be nested. -/
def deriveReference (g : Grammar) (suffix : Option String) :
    Nat → List Nat → Reference → Except DerivationError ScopedPattern
  | 0, _, r => .error (.recursiveReference r.name r.span)
  | budget + 1, expanding, r =>
    match g.find? r.name with
    | none => .error (.undefinedReference r.name r.span)
    | some d =>
      if expanding.contains d.id then .error (.recursiveReference r.name r.span)
      else do
        let body ← d.body.derive d.name (g.deriveReference suffix budget (d.id :: expanding))
        return d.enclose suffix body

/-- The pattern of the body of a definition. -/
def deriveBody (g : Grammar) (suffix : Option String) (d : Definition) :
    Except DerivationError ScopedPattern :=
  d.body.derive d.name (g.deriveReference suffix (g.size + 1) [d.id])

/-- The pattern of a definition as one unit, which has the scope of the definition if there is
one. -/
def deriveScoped (g : Grammar) (suffix : Option String) (d : Definition) :
    Except DerivationError ScopedPattern := do
  let body ← g.deriveBody suffix d
  match d.scope? suffix with
  | some scope => return .capture scope body
  | none => return .group body

end Grammar

end Peg
