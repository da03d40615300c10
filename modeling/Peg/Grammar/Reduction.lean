import Peg.Grammar.Malformed
import Peg.SyntaxTree

/-!
# From syntax trees to grammars

A syntax tree is walked once. Tokens put their values on a stack, and a node replaces the values
that its own parts have left there by a single one. Every node works in a scope of its own, so that
it cannot take what belongs to the nodes around it.
-/

namespace Peg

open Peg.Text

namespace Reduction

/-- The stack of waiting operands. -/
abbrev Operands := ScopedStack Operand

/-- The text between the first and the last character if both are the same delimiter, and otherwise
the text itself. -/
def stripDelimiters (delimiters : List Char) : List Char → List Char
  | first :: second :: rest =>
    if (second :: rest).getLast? = some first && delimiters.contains first then
      (second :: rest).dropLast
    else first :: second :: rest
  | text => text

/-- The text that a quoted literal denotes. -/
def literalValue (text : String) : String :=
  unescape (String.ofList (stripDelimiters ['"', '\''] text.toList))

/-- A pattern in which slashes stand for themselves, from one in which they are escaped. -/
def unescapeSlashes : List Char → List Char
  | '\\' :: '/' :: rest => '/' :: unescapeSlashes rest
  | c :: rest => c :: unescapeSlashes rest
  | [] => []

/-- The pattern that is written between slashes. -/
def regexValue (text : String) : String :=
  String.ofList (unescapeSlashes (stripDelimiters ['/'] text.toList))

/-- The value of a token, if tokens of its kind have one. -/
def tokenValue? (kind : TokenKind) (text : String) (span : Span) : Option Operand :=
  match kind with
  | .ident => some (.element (.reference span text))
  | .string => some (.element (.text span (literalValue text)))
  | .regex => some (.element (.regex span (regexValue text) 1))
  | .number => some (.element (.number span text))
  | .true => some (.element (.boolean span true))
  | .false => some (.element (.boolean span false))
  | .kwDrop => some (.marker .drop span)
  | .kwTerminal => some (.marker (.terminal true) span)
  | .kwRawTerminal => some (.marker (.terminal false) span)
  | .kwInline => some (.marker .inline span)
  | .kwPromoteError => some (.marker .promoteError span)
  | .kwNameAsError => some (.marker .nameAsError span)
  | .question => some (.operator .optional span)
  | .star => some (.operator .zeroOrMore span)
  | .plus => some (.operator .oneOrMore span)
  | _ => none

/-- Put the value of a token on the stack. Blanks, comments and punctuation have none. -/
def shift (kind : TokenKind) (text : String) (span : Span) (s : Operands) :
    Except Malformed Operands :=
  match tokenValue? kind text span with
  | some operand => .ok (s.push operand)
  | none =>
    if kind.isTrivia || kind.isPunctuation then .ok s
    else .error (.unexpectedKind (.token kind) span)

variable {α : Type}

/-- Take an operand that a node cannot do without. -/
def take (operands : ItemKind Operand α) (kind : NodeKind) (span : Span) (s : Operands) :
    Except Malformed (α × Operands) :=
  match s.pop Operand.describe operands with
  | .ok taken => .ok taken
  | .error cause => .error (.stack cause kind span)

/-- Take the name in front of a definition or a value. -/
def takeName (kind : NodeKind) (span : Span) (s : Operands) :
    Except Malformed (Reference × Operands) := do
  let (element, s) ← take Operand.elementKind kind span s
  match element.asReference? with
  | some name => return (name, s)
  | none => throw (.stack (.mismatch "reference" element.describe) kind element.span)

/-- Put markers around an element, the last one innermost. -/
def wrap (markers : List (Marker × Span)) (body : Element) : Element :=
  markers.foldr (fun (marker, span) body => .marked (span.cover body.span) marker body) body

/-- Take the markers on top of the stack and put them around an element. -/
def threadMarkers (body : Element) (s : Operands) : Element × Operands :=
  let (markers, s) := s.popRun Operand.markerKind
  (wrap markers body, s)

/-- Join elements with the last two joined first. -/
def join (make : Span → Element → Element → Element) : Element → List Element → Element
  | first, [] => first
  | first, second :: rest =>
    let joined := join make second rest
    make (first.span.cover joined.span) first joined

/-- The elements of a sequence or a choice, joined. -/
def reduceJoined (make : Span → Element → Element → Element) (kind : NodeKind) (span : Span)
    (s : Operands) : Except Malformed (Operand × Operands) :=
  match s.popRun Operand.elementKind with
  | ([], _) => .error (.emptyOperator kind span)
  | (first :: rest, s) => .ok (.element (join make first rest), s)

/-- An element with the operator behind it, if there is one. -/
def reduceSuffix (span : Span) (s : Operands) : Except Malformed (Operand × Operands) :=
  match s.tryPop Operand.operatorKind with
  | none => do
    let (body, s) ← take Operand.elementKind .suffix span s
    return (.element body, s)
  | some ((operator, place), s) =>
    match s.pop Operand.describe Operand.elementKind with
    | .ok (body, s) => .ok (.element (operator.apply span body), s)
    | .error (.empty _) => .error (.orphanOperator operator place)
    | .error cause => .error (.stack cause .suffix span)

/-- A negated element. -/
def reduceNot (span : Span) (s : Operands) : Except Malformed (Operand × Operands) := do
  let (body, s) ← take Operand.elementKind .not span s
  return (.element (.not span body), s)

/-- An element with the markers in front of it. -/
def reduceMarked (span : Span) (s : Operands) : Except Malformed (Operand × Operands) := do
  let (body, s) ← take Operand.elementKind .marked span s
  let (element, s) := threadMarkers body s
  return (.element element, s)

/-- A pattern with the repeat count behind it, if there is one. -/
def reduceRegexTerm (span : Span) (s : Operands) : Except Malformed (Operand × Operands) := do
  let (count?, s) := match s.tryPop Operand.repeatCountKind with
    | some (count, s) => (some count, s)
    | none => (none, s)
  let (body, s) ← take Operand.elementKind .regexTerm span s
  match body with
  | .regex _ pattern times => return (.element (.regex span pattern (count?.getD times)), s)
  | _ => throw (.expectedRegex body.describe body.span)

/-- A repeat count, which is positive. -/
def reduceRepeatCount (span : Span) (s : Operands) : Except Malformed (Operand × Operands) := do
  let (element, s) ← take Operand.elementKind .repeatCount span s
  match element with
  | .number place digits =>
    match Decimal.value32? digits with
    | some (count + 1) => return (.repeatCount (count + 1) span, s)
    | _ => throw (.invalidRepeatCount digits place)
  | _ => throw (.invalidRepeatCount element.describe element.span)

/-- An element as the value of an option or a property. -/
def elementValue : Element → Except Malformed Value
  | .text _ content => .ok (.text content)
  | .number _ digits => .ok (.number digits)
  | .boolean _ value => .ok (.boolean value)
  | .reference _ name => .ok (.reference name)
  | element => .error (.invalidValue element.describe element.span)

/-- A name with its value, as an option or a property. -/
def reduceAttribute (make : Attribute → Operand) (kind : NodeKind) (span : Span) (s : Operands) :
    Except Malformed (Operand × Operands) := do
  let (element, s) ← take Operand.elementKind kind span s
  let value ← elementValue element
  let (name, s) ← takeName kind span s
  return (make ⟨name.name, name.span, value, span⟩, s)

/-- A definition. Its number is given to it by the grammar. -/
def reduceDefinition (definitionKind : DefinitionKind) (kind : NodeKind) (span : Span)
    (s : Operands) : Except Malformed (Operand × Operands) := do
  let (properties, s) := s.popRun Operand.propertyKind
  let (body, s) ← take Operand.elementKind kind span s
  let (name, s) ← takeName kind span s
  let (body, s) := threadMarkers body s
  return (.definition ⟨0, definitionKind, name.name, name.span, body,
    Attributes.ofList properties, span⟩, s)

/-- How the value of a node comes from the values of its parts, for nodes that have a value. -/
def reducer? : NodeKind → Option (Span → Operands → Except Malformed (Operand × Operands))
  | .root | .group | .marker => none
  | .sequence => some (reduceJoined .sequence .sequence)
  | .choice => some (reduceJoined .choice .choice)
  | .suffix => some reduceSuffix
  | .not => some reduceNot
  | .marked => some reduceMarked
  | .regexTerm => some reduceRegexTerm
  | .repeatCount => some reduceRepeatCount
  | .property => some (reduceAttribute .property .property)
  | .optionDecl => some (reduceAttribute .option .optionDecl)
  | .definition => some (reduceDefinition .rule .definition)
  | .tmDefinition => some (reduceDefinition .highlight .tmDefinition)

/-- Close the scope of a node. -/
def close (kind : NodeKind) (span : Span) (s : Operands) :
    Except Malformed (List Operand × Operands) :=
  match s.exit with
  | .ok closed => .ok closed
  | .error cause => .error (.stack cause kind span)

/-- Refuse values that a node has no use for. -/
def rejectLeftovers (kind : NodeKind) (span : Span) : List Operand → Except Malformed Unit
  | [] => .ok ()
  | extra :: _ => .error (.leftover kind extra.describe span)

/-- Replace the values of a node's parts by its own. A group or a marker hands its values on. -/
def leaveInner (kind : NodeKind) (span : Span) (s : Operands) : Except Malformed Operands :=
  match reducer? kind with
  | none => do
    let (items, s) ← close kind span s
    return s.pushAll items
  | some reduce => do
    let (operand, s) ← reduce span s
    let (leftovers, s) ← close kind span s
    rejectLeftovers kind span leftovers
    return s.push operand

/-- Make a grammar of the definitions and options below a root. -/
def leaveRoot (span : Span) (s : Operands) : Except Malformed (Grammar × Operands) := do
  let (items, s) := s.popRun Operand.topLevelKind
  let (leftovers, s) ← close .root span s
  rejectLeftovers .root span leftovers
  match Grammar.ofDefinitions (items.filterMap TopLevel.definition?)
      (items.filterMap TopLevel.option?) with
  | .ok grammar => return (grammar, s)
  | .error cause => throw (.grammar cause)

/-- The stack and the grammar of the root that was left last. -/
structure State where
  stack : Operands
  grammar : Grammar
  deriving Repr

/-- Leave a node. -/
def leave (kind : NodeKind) (span : Span) (s : State) : Except Malformed State :=
  match kind with
  | .root => do
    let (grammar, stack) ← leaveRoot span s.stack
    return ⟨stack, grammar⟩
  | kind => do
    return { s with stack := ← leaveInner kind span s.stack }

mutual

/-- Walk a tree that starts at an offset. -/
def walk (start : Nat) : SyntaxTree → State → Except Malformed State
  | .token kind text, s => do
    let stack ← shift kind text ⟨start, start + byteLength text.toList⟩ s.stack
    return { s with stack := stack }
  | .node kind children, s => do
    let s ← walkAll start children { s with stack := s.stack.enter }
    leave kind ⟨start, start + SyntaxTree.widthOfAll children⟩ s

/-- Walk several trees in a row. -/
def walkAll (start : Nat) : List SyntaxTree → State → Except Malformed State
  | [], s => .ok s
  | t :: ts, s => do
    let s ← walk start t s
    walkAll (start + t.width) ts s

end

end Reduction

/-- The grammar that a syntax tree describes. -/
def Grammar.ofTree (tree : SyntaxTree) : Except Malformed Grammar :=
  if tree.kind = .node .root then do
    let s ← Reduction.walk 0 tree ⟨.empty, .empty⟩
    return s.grammar
  else .error (.unexpectedKind tree.kind (tree.spanFrom 0))

end Peg
