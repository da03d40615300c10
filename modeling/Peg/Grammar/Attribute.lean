import Peg.Span
import Peg.Text.Decimal

/-!
# Attributes

Named values: the options of a grammar and the properties of its definitions. A name that is given
again keeps its place among the attributes and takes the new value.
-/

namespace Peg

/-- The value of an option or a property. -/
inductive Value where
  | text (text : String)
  | number (digits : String)
  | boolean (value : Bool)
  /-- A bare name, which usually refers to a definition. -/
  | reference (name : String)
  deriving DecidableEq, Repr

namespace Value

/-- The text of a text or a name. -/
def asText? : Value → Option String
  | .text content => some content
  | .reference name => some name
  | _ => none

/-- The truth value of a boolean. -/
def asBool? : Value → Option Bool
  | .boolean b => some b
  | _ => none

/-- The number, if it fits into 32 bits. -/
def asNumber? : Value → Option Nat
  | .number digits => Text.Decimal.value32? digits
  | _ => none

/-- What a value is called in messages. -/
def describe : Value → String
  | .text _ => "text"
  | .number _ => "number"
  | .boolean _ => "boolean"
  | .reference _ => "reference"

end Value

/-- A value with its name and their places. -/
structure Attribute where
  name : String
  nameSpan : Span
  value : Value
  span : Span
  deriving DecidableEq, Repr

/-- Attributes with different names, in order of their first mention. -/
abbrev Attributes := List Attribute

namespace Attributes

/-- Set an attribute. -/
def insert (a : Attribute) : Attributes → Attributes
  | [] => [a]
  | b :: bs => if b.name = a.name then a :: bs else b :: insert a bs

/-- Set attributes in order. -/
def ofList (attributes : List Attribute) : Attributes :=
  attributes.foldl (fun all a => insert a all) []

/-- The attribute with a name. -/
def get? (attributes : Attributes) (name : String) : Option Attribute :=
  attributes.find? fun a => a.name == name

end Attributes

end Peg
