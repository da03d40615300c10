import Peg.Grammar.Reduction
import Peg.Proofs.Except

/-!
# Syntax trees read directly

What a syntax tree means, by recursion on the tree alone. A part of a tree has a list of values that
is computed from the lists of its own parts, laid end to end, and from nothing else. There is no
stack and no scope here.
-/

namespace Peg

namespace SyntaxTree

mutual

/-- No part of the tree is a root. -/
def RootFree : SyntaxTree → Prop
  | .token _ _ => True
  | .node kind children => kind ≠ .root ∧ AllRootFree children

/-- No part of the trees is a root. -/
def AllRootFree : List SyntaxTree → Prop
  | [] => True
  | t :: ts => t.RootFree ∧ AllRootFree ts

end

end SyntaxTree

namespace Reading

open Peg.Text Peg.Reduction

variable {α β : Type}

/-- The values of a node's parts that are not used up yet, the latest first. -/
abbrev Parts := List Operand

/-- All values of one kind that come last, in their order, and the parts before them. -/
def run (kind : ItemKind Operand α) (parts : Parts) : List α × Parts :=
  (((parts.takeWhile kind.admits).filterMap kind.extract?).reverse, parts.dropWhile kind.admits)

/-- The element that has to come last. -/
def element (kind : NodeKind) (span : Span) : Parts → Except Malformed (Element × Parts)
  | [] => .error (.stack (.empty "element") kind span)
  | .element e :: parts => .ok (e, parts)
  | part :: _ => .error (.stack (.mismatch "element" part.describe) kind span)

/-- The name that has to come last. -/
def name (kind : NodeKind) (span : Span) (parts : Parts) :
    Except Malformed (Reference × Parts) := do
  let (e, parts) ← element kind span parts
  match e with
  | .reference place name => return (⟨name, place⟩, parts)
  | e => throw (.stack (.mismatch "reference" e.describe) kind e.span)

/-- The elements that come last, joined from the right. -/
def joined (make : Span → Element → Element → Element) (kind : NodeKind) (span : Span)
    (parts : Parts) : Except Malformed (Operand × Parts) :=
  let (elements, parts) := run Operand.elementKind parts
  match elements.getLast? with
  | none => .error (.emptyOperator kind span)
  | some e =>
    .ok (.element (elements.dropLast.foldr (fun e rest => make (e.span.cover rest.span) e rest) e),
      parts)

/-- An element, or an element and the operator behind it. -/
def suffix (span : Span) : Parts → Except Malformed (Operand × Parts)
  | [.operator operator place] => .error (.orphanOperator operator place)
  | .operator operator _ :: parts => do
    let (body, parts) ← element .suffix span parts
    return (.element (operator.apply span body), parts)
  | parts => do
    let (body, parts) ← element .suffix span parts
    return (.element body, parts)

/-- An element under a negation. -/
def negation (span : Span) (parts : Parts) : Except Malformed (Operand × Parts) := do
  let (body, parts) ← element .not span parts
  return (.element (.not span body), parts)

/-- Markers and an element. -/
def marked (span : Span) (parts : Parts) : Except Malformed (Operand × Parts) := do
  let (body, parts) ← element .marked span parts
  let (markers, parts) := run Operand.markerKind parts
  return (.element (wrap markers body), parts)

/-- A pattern with the times it is repeated. -/
def pattern (span : Span) (times? : Option Nat) (parts : Parts) :
    Except Malformed (Operand × Parts) := do
  let (body, parts) ← element .regexTerm span parts
  match body with
  | .regex _ pattern times => return (.element (.regex span pattern (times?.getD times)), parts)
  | _ => throw (.expectedRegex body.describe body.span)

/-- A pattern, or a pattern and the repeat count behind it. -/
def regexTerm (span : Span) : Parts → Except Malformed (Operand × Parts)
  | .repeatCount times _ :: parts => pattern span (some times) parts
  | parts => pattern span none parts

/-- A number that counts repetitions. -/
def repeatCount (span : Span) (parts : Parts) : Except Malformed (Operand × Parts) := do
  let (e, parts) ← element .repeatCount span parts
  match e with
  | .number place digits =>
    match Decimal.value32? digits with
    | some (count + 1) => return (.repeatCount (count + 1) span, parts)
    | _ => throw (.invalidRepeatCount digits place)
  | _ => throw (.invalidRepeatCount e.describe e.span)

/-- A name and a value. -/
def attributed (make : Attribute → Operand) (kind : NodeKind) (span : Span) (parts : Parts) :
    Except Malformed (Operand × Parts) := do
  let (e, parts) ← element kind span parts
  let value ← elementValue e
  let (name, parts) ← name kind span parts
  return (make ⟨name.name, name.span, value, span⟩, parts)

/-- Markers, a name, a body and properties. -/
def definition (definitionKind : DefinitionKind) (kind : NodeKind) (span : Span) (parts : Parts) :
    Except Malformed (Operand × Parts) := do
  let (properties, parts) := run Operand.propertyKind parts
  let (body, parts) ← element kind span parts
  let (name, parts) ← name kind span parts
  let (markers, parts) := run Operand.markerKind parts
  return (.definition ⟨0, definitionKind, name.name, name.span, wrap markers body,
    Attributes.ofList properties, span⟩, parts)

/-- How the parts of a node are read, for nodes that have a value of their own. -/
def reading? : NodeKind → Option (Span → Parts → Except Malformed (Operand × Parts))
  | .root | .group | .marker => none
  | .sequence => some (joined .sequence .sequence)
  | .choice => some (joined .choice .choice)
  | .suffix => some suffix
  | .not => some negation
  | .marked => some marked
  | .regexTerm => some regexTerm
  | .repeatCount => some repeatCount
  | .property => some (attributed .property .property)
  | .optionDecl => some (attributed .option .optionDecl)
  | .definition => some (definition .rule .definition)
  | .tmDefinition => some (definition .highlight .tmDefinition)

/-- Every part of a node has to be used. The first one that is not is reported. -/
def usedUp (kind : NodeKind) (span : Span) (parts : Parts) : Except Malformed Unit :=
  match parts.getLast? with
  | none => .ok ()
  | some extra => .error (.leftover kind extra.describe span)

/-- The values of a node, from the values of its parts in their order. -/
def ofNode (kind : NodeKind) (span : Span) (values : List Operand) :
    Except Malformed (List Operand) :=
  match reading? kind with
  | none => .ok values
  | some read => do
    let (value, parts) ← read span values.reverse
    usedUp kind span parts
    return [value]

/-- The values of a token. Blanks, comments and punctuation have none. -/
def ofToken (kind : TokenKind) (text : String) (span : Span) : Except Malformed (List Operand) :=
  match tokenValue? kind text span with
  | some value => .ok [value]
  | none =>
    if kind.isTrivia || kind.isPunctuation then .ok []
    else .error (.unexpectedKind (.token kind) span)

mutual

/-- The values of a tree that starts at an offset. -/
def values (start : Nat) : SyntaxTree → Except Malformed (List Operand)
  | .token kind text => ofToken kind text ⟨start, start + byteLength text.toList⟩
  | .node kind children => do
    ofNode kind ⟨start, start + SyntaxTree.widthOfAll children⟩ (← valuesOfAll start children)

/-- The values of several trees in a row. -/
def valuesOfAll (start : Nat) : List SyntaxTree → Except Malformed (List Operand)
  | [] => .ok []
  | t :: ts => do
    let first ← values start t
    let rest ← valuesOfAll (start + t.width) ts
    return first ++ rest

end

/-- The grammar of the definitions and options among the values below a root. -/
def ofRoot (span : Span) (values : List Operand) : Except Malformed Grammar := do
  let (items, parts) := run Operand.topLevelKind values.reverse
  usedUp .root span parts
  match Grammar.ofDefinitions (items.filterMap TopLevel.definition?)
      (items.filterMap TopLevel.option?) with
  | .ok grammar => return grammar
  | .error cause => throw (.grammar cause)

/-- The grammar below a root. -/
def grammar (children : List SyntaxTree) : Except Malformed Grammar := do
  ofRoot ⟨0, SyntaxTree.widthOfAll children⟩ (← valuesOfAll 0 children)

/-- The computation does not fail for want of an open scope. -/
def Scoped (x : Except Malformed α) : Prop :=
  ∀ kind span, x ≠ .error (.stack .noOpenScope kind span)

/-- A reading that succeeds misses no scope. -/
theorem scoped_ok (a : α) : Scoped (.ok a) :=
  fun _ _ h => nomatch h

/-- A reading in two parts misses no scope if neither part does. -/
theorem Scoped.bind {x : Except Malformed α} {f : α → Except Malformed β} (hx : Scoped x)
    (hf : ∀ a, Scoped (f a)) : Scoped (x >>= f) := by
  intro kind span h
  rcases bind_eq_error_iff.mp h with hfirst | ⟨a, _, hrest⟩
  · exact hx kind span hfirst
  · exact hf a kind span hrest

/-- Reading an element misses no scope. -/
theorem scoped_element (kind : NodeKind) (span : Span) (parts : Parts) :
    Scoped (element kind span parts) := by
  intro other place h
  cases parts with
  | nil => cases h
  | cons part parts => cases part <;> cases h

/-- Reading a name misses no scope. -/
theorem scoped_name (kind : NodeKind) (span : Span) (parts : Parts) :
    Scoped (name kind span parts) := by
  refine (scoped_element kind span parts).bind fun ⟨e, rest⟩ other place h => ?_
  cases e <;> cases h

/-- Reading a sequence or a choice misses no scope. -/
theorem scoped_joined (make : Span → Element → Element → Element) (kind : NodeKind) (span : Span)
    (parts : Parts) : Scoped (joined make kind span parts) := by
  intro other place h
  simp only [joined] at h
  split at h <;> cases h

/-- Reading a suffix misses no scope. -/
theorem scoped_suffix (span : Span) (parts : Parts) : Scoped (suffix span parts) := by
  fun_cases suffix span parts with
  | case1 operator place => exact fun _ _ h => nomatch h
  | case2 operator place parts => exact (scoped_element _ _ _).bind fun _ => scoped_ok _
  | case3 parts => exact (scoped_element _ _ _).bind fun _ => scoped_ok _

/-- Reading a pattern misses no scope, with or without a repeat count. -/
theorem scoped_pattern (span : Span) (times? : Option Nat) (parts : Parts) :
    Scoped (pattern span times? parts) := by
  refine (scoped_element _ span parts).bind fun ⟨e, rest⟩ other place h => ?_
  cases e <;> cases h

/-- Reading a pattern with what is behind it misses no scope. -/
theorem scoped_regexTerm (span : Span) (parts : Parts) : Scoped (regexTerm span parts) := by
  fun_cases regexTerm span parts with
  | case1 times place parts => exact scoped_pattern span (some times) parts
  | case2 parts => exact scoped_pattern span none parts

/-- Reading a repeat count misses no scope. -/
theorem scoped_repeatCount (span : Span) (parts : Parts) : Scoped (repeatCount span parts) := by
  refine (scoped_element _ span parts).bind fun ⟨e, rest⟩ other place h => ?_
  cases e with
  | number place digits =>
    simp only at h
    split at h <;> cases h
  | _ => cases h

/-- Reading a property or an option misses no scope. -/
theorem scoped_attributed (make : Attribute → Operand) (kind : NodeKind) (span : Span)
    (parts : Parts) : Scoped (attributed make kind span parts) := by
  have hvalue (e : Element) : Scoped (Reduction.elementValue e) := by
    intro other place h
    cases e <;> cases h
  exact (scoped_element kind span parts).bind fun ⟨e, rest⟩ =>
    (hvalue e).bind fun _ => (scoped_name kind span rest).bind fun _ => scoped_ok _

/-- Reading a definition misses no scope. -/
theorem scoped_definition (definitionKind : DefinitionKind) (kind : NodeKind) (span : Span)
    (parts : Parts) : Scoped (definition definitionKind kind span parts) :=
  (scoped_element kind span _).bind fun ⟨_, rest⟩ =>
    (scoped_name kind span rest).bind fun _ => scoped_ok _

/-- To find that parts are left over misses no scope. -/
theorem scoped_usedUp (kind : NodeKind) (span : Span) (parts : Parts) :
    Scoped (usedUp kind span parts) := by
  intro other place h
  rw [usedUp] at h
  split at h <;> cases h

/-- Whatever a node is read as, the reading misses no scope. -/
theorem scoped_reading {kind : NodeKind} {read : Span → Parts → Except Malformed (Operand × Parts)}
    (h : reading? kind = some read) (span : Span) (parts : Parts) : Scoped (read span parts) := by
  cases kind <;> cases h
  case sequence | choice => exact scoped_joined _ _ span parts
  case suffix => exact scoped_suffix span parts
  case not | marked => exact (scoped_element _ span parts).bind fun _ => scoped_ok _
  case regexTerm => exact scoped_regexTerm span parts
  case repeatCount => exact scoped_repeatCount span parts
  case property | optionDecl => exact scoped_attributed _ _ span parts
  case definition | tmDefinition => exact scoped_definition _ _ span parts

/-- What a node means is found without missing a scope. -/
theorem scoped_ofNode (kind : NodeKind) (span : Span) (values : List Operand) :
    Scoped (ofNode kind span values) := by
  rw [ofNode]
  split
  case h_1 => exact scoped_ok values
  case h_2 read hread =>
    exact (scoped_reading hread span _).bind fun _ =>
      (scoped_usedUp kind span _).bind fun _ => scoped_ok _

/-- What a token means is found without missing a scope. -/
theorem scoped_ofToken (kind : TokenKind) (text : String) (span : Span) :
    Scoped (ofToken kind text span) := by
  intro other place h
  rw [ofToken] at h
  split at h
  · cases h
  · split at h <;> cases h

mutual

/-- What a tree means is found without missing a scope. -/
theorem scoped_values (start : Nat) : ∀ (t : SyntaxTree), Scoped (values start t)
  | .token kind text => by
    rw [values]
    exact scoped_ofToken kind text _
  | .node kind children => by
    rw [values]
    exact (scoped_valuesOfAll start children).bind fun _ => scoped_ofNode kind _ _

/-- What trees in a row mean is found without missing a scope. -/
theorem scoped_valuesOfAll (start : Nat) : ∀ (ts : List SyntaxTree), Scoped (valuesOfAll start ts)
  | [] => scoped_ok []
  | t :: ts => by
    rw [valuesOfAll]
    exact (scoped_values start t).bind fun _ =>
      (scoped_valuesOfAll (start + t.width) ts).bind fun _ => scoped_ok _

end

/-- A grammar is read without missing a scope. -/
theorem scoped_grammar (children : List SyntaxTree) : Scoped (grammar children) := by
  refine (scoped_valuesOfAll 0 children).bind fun values => ?_
  refine (scoped_usedUp _ _ _).bind fun _ other place h => ?_
  split at h <;> cases h

end Reading

end Peg
