import Peg.Span
import Peg.Text.Escape

/-!
# Elements

The parts of a rule body as the author of a grammar wrote them, each with its place in the grammar.
-/

namespace Peg

/-- An annotation of an element. -/
inductive Marker where
  /-- Match, but keep nothing in the tree. -/
  | drop
  /-- Collapse everything matched into text, with or without decoding escapes. -/
  | terminal (decode : Bool)
  /-- Expand the definition where it is referred to instead of calling it. -/
  | inline
  /-- Report failures at the start of the body under the error name. -/
  | promoteError
  /-- Report every failure inside the body under the error name. -/
  | nameAsError
  deriving DecidableEq, Repr

/-- The keyword of a marker. -/
def Marker.keyword : Marker → String
  | .drop => "@drop"
  | .terminal true => "@terminal"
  | .terminal false => "@raw"
  | .inline => "@inline"
  | .promoteError => "@promote"
  | .nameAsError => "@error"

/-- A part of a rule body. -/
inductive Element where
  /-- A literal text with its escapes decoded. -/
  | text (span : Span) (text : String)
  | regex (span : Span) (pattern : String) (times : Nat)
  | number (span : Span) (digits : String)
  | boolean (span : Span) (value : Bool)
  /-- The name of a definition. -/
  | reference (span : Span) (name : String)
  | sequence (span : Span) (left right : Element)
  /-- The left side wins when both match. -/
  | choice (span : Span) (left right : Element)
  | optional (span : Span) (body : Element)
  | zeroOrMore (span : Span) (body : Element)
  | oneOrMore (span : Span) (body : Element)
  | not (span : Span) (body : Element)
  | marked (span : Span) (marker : Marker) (body : Element)
  deriving DecidableEq, Repr

/-- A name that refers to a definition, and its place. -/
structure Reference where
  name : String
  span : Span
  deriving DecidableEq, Repr

namespace Element

/-- The place of an element. -/
def span : Element → Span
  | .text s _ | .regex s _ _ | .number s _ | .boolean s _ | .reference s _ | .sequence s _ _
  | .choice s _ _ | .optional s _ | .zeroOrMore s _ | .oneOrMore s _ | .not s _
  | .marked s _ _ => s

/-- What an element is called in messages. -/
def describe : Element → String
  | .text _ _ => "text"
  | .regex _ _ _ => "regex"
  | .number _ _ => "number"
  | .boolean _ _ => "boolean"
  | .reference _ _ => "reference"
  | .sequence _ _ _ => "sequence"
  | .choice _ _ _ => "choice"
  | .optional _ _ => "optional"
  | .zeroOrMore _ _ => "zero-or-more"
  | .oneOrMore _ _ => "one-or-more"
  | .not _ _ => "negation"
  | .marked _ _ _ => "marked element"

/-- The direct parts in order. -/
def children : Element → List Element
  | .sequence _ left right | .choice _ left right => [left, right]
  | .optional _ body | .zeroOrMore _ body | .oneOrMore _ body | .not _ body
  | .marked _ _ body => [body]
  | .text _ _ | .regex _ _ _ | .number _ _ | .boolean _ _ | .reference _ _ => []

/-- The reference that the element consists of. -/
def asReference? : Element → Option Reference
  | .reference span name => some ⟨name, span⟩
  | _ => none

/-- All references in the element, in order. -/
def references : Element → List Reference
  | .reference span name => [⟨name, span⟩]
  | .sequence _ left right | .choice _ left right => left.references ++ right.references
  | .optional _ body | .zeroOrMore _ body | .oneOrMore _ body | .not _ body
  | .marked _ _ body => body.references
  | .text _ _ | .regex _ _ _ | .number _ _ | .boolean _ _ => []

/-- The markers around an element, outermost first. -/
def markers : Element → List Marker
  | .marked _ marker body => marker :: body.markers
  | _ => []

/-- The element without the markers around it. -/
def unmarked : Element → Element
  | .marked _ _ body => body.unmarked
  | element => element

/-- The element in a compact form with parentheses. -/
def render : Element → String
  | .text _ content => Text.quote content
  | .regex _ pattern times =>
    if times = 1 then s!"/{pattern}/" else s!"/{pattern}/\x7b{times}\x7d"
  | .number _ digits => digits
  | .boolean _ value => if value then "true" else "false"
  | .reference _ name => name
  | .sequence _ left right => s!"(seq {left.render} {right.render})"
  | .choice _ left right => s!"(choice {left.render} {right.render})"
  | .optional _ body => s!"(opt {body.render})"
  | .zeroOrMore _ body => s!"(star {body.render})"
  | .oneOrMore _ body => s!"(plus {body.render})"
  | .not _ body => s!"(not {body.render})"
  | .marked _ marker body => s!"({marker.keyword} {body.render})"

end Element

end Peg
