import Peg.Config
import Peg.Finding
import Peg.Highlight.Writing
import Peg.Text.Words

/-!
# Highlighting

What an editor needs to highlight a language: a rule for every highlight definition of a grammar. A
rule is a single pattern, or else a region between two patterns with other rules inside.
-/

namespace Peg

/-- A rule for highlighting. -/
inductive HighlightRule where
  | single (name : String) (pattern : HighlightPattern)
  /-- A region with the scope, the patterns at its ends and the names of the rules inside. -/
  | region (name : String) (scope : Option String) (opening closing : HighlightPattern)
    (includes : List String)
  deriving DecidableEq, Repr

/-- The name of a rule. -/
def HighlightRule.name : HighlightRule → String
  | .single name _ | .region name _ _ _ _ => name

/-- The rules for highlighting a language. -/
structure Highlighting where
  name : String
  scope : String
  fileTypes : List String
  rules : List HighlightRule
  deriving DecidableEq, Repr

/-- The first name that a property of a definition holds, with the place of the property. -/
def Definition.delimiter? (d : Definition) (property : String) : Option Reference :=
  match d.properties.get? property, d.propertyNames property with
  | some a, name :: _ => some ⟨name, a.span⟩
  | _, _ => none

/-- References without those whose name occurs further ahead. -/
def firstMentions (names : List String) : List Reference → List Reference
  | [] => []
  | r :: rs =>
    if names.contains r.name then firstMentions names rs
    else r :: firstMentions (r.name :: names) rs

/-- The references in the body and in the property for included rules, each name once. -/
def Definition.mentions (d : Definition) : List Reference :=
  let included := match d.properties.get? "include" with
    | some a => (d.propertyNames "include").map fun name => ⟨name, a.span⟩
    | none => []
  firstMentions [] (d.body.references ++ included)

namespace Grammar

/-- The pattern at an end of a region. -/
def deriveDelimiter (g : Grammar) (suffix : Option String) (r : Reference) :
    Except DerivationError HighlightPattern :=
  match g.find? r.name with
  | none => .error (.undefinedReference r.name r.span)
  | some d => g.writeScoped suffix d

/-- The name of a rule inside a region, which has to be a highlight definition. -/
def includedRule (g : Grammar) (r : Reference) : Except DerivationError String :=
  match g.find? r.name with
  | none => .error (.undefinedReference r.name r.span)
  | some d =>
    if d.kind = .highlight then .ok d.name else .error (.invalidRuleReference r.name r.span)

/-- The rule for a highlight definition. It is a region if the definition names the definitions at
both ends. -/
def deriveRule (g : Grammar) (suffix : Option String) (d : Definition) :
    Except DerivationError HighlightRule :=
  match d.delimiter? "begin", d.delimiter? "end" with
  | none, none => do
    let pattern ← g.writeScoped suffix d
    return .single d.name pattern
  | some opening, some closing => do
    let opening ← g.deriveDelimiter suffix opening
    let closing ← g.deriveDelimiter suffix closing
    let includes ← d.mentions.mapM g.includedRule
    return .region d.name (d.scope? suffix) opening closing includes
  | _, _ => .error (.missingBeginEnd d.name d.nameSpan)

/-- What is reported of a definition that consists of nothing but a reference to another one when
both have scopes: the text is the same, and only the inner scope shows. Regions are not
concerned. -/
def shadowFindings (g : Grammar) (suffix : Option String) (d : Definition) : List Finding :=
  let isRegion := (d.delimiter? "begin").isSome || (d.delimiter? "end").isSome
  if isRegion || (d.scope? suffix).isNone then []
  else
    match d.body.unmarked.asReference? with
    | none => []
    | some r =>
      match g.find? r.name with
      | none => []
      | some target =>
        if target.isInline then []
        else
          match target.scope? suffix with
          | none => []
          | some inner =>
            [⟨.shadowedScope, d.nameSpan, FindingKind.shadowedScope.detailed s!"`{inner}`",
              [⟨s!"`{target.name}` has its own scope", r.span⟩]⟩]

/-- The rules for definitions in order, up to the first that cannot be expressed, and what is
reported of the definitions up to there. -/
def deriveRules (g : Grammar) (suffix : Option String) :
    List Definition → Except DerivationError (List HighlightRule) × List Finding
  | [] => (.ok [], [])
  | d :: ds =>
    let shadows := g.shadowFindings suffix d
    match g.deriveRule suffix d with
    | .error e => (.error e, shadows)
    | .ok rule =>
      let (rules, findings) := g.deriveRules suffix ds
      (rules.map (rule :: ·), shadows ++ findings)

/-- The highlighting for a grammar, and what is reported on the way. -/
def deriveHighlighting (g : Grammar) (c : Config) :
    Except DerivationError Highlighting × List Finding :=
  let (rules, findings) := g.deriveRules c.suffix? g.highlights
  let name := (c.languageName.or (c.className.or c.root)).getD "grammar"
  let scope := c.languageScope.getD ("source." ++ Text.snakeCase name)
  (rules.map fun rules => ⟨name, scope, c.types, rules⟩, findings)

end Grammar

end Peg
