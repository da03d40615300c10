import Peg.Highlight.Derivation

/-!
# Writing patterns

A pattern is written from left to right while the definitions that it needs are expanded. Its scopes
are numbered as their groups open, by counting those that were opened before.
-/

namespace Peg

/-- A pattern as text, with its scopes. -/
structure HighlightPattern where
  pattern : String
  captures : List Capture
  deriving DecidableEq, Repr

namespace HighlightPattern

/-- Nothing has been written. -/
def empty : HighlightPattern :=
  ⟨"", []⟩

/-- Write more text. -/
def write (out : HighlightPattern) (text : String) : HighlightPattern :=
  { out with pattern := out.pattern ++ text }

/-- Open the group of a scope, which gets the next number. -/
def openScope (out : HighlightPattern) (scope : String) : HighlightPattern where
  pattern := out.pattern ++ "("
  captures := out.captures ++ [⟨out.captures.length + 1, scope⟩]

end HighlightPattern

/-- Something that is written behind what is there. -/
abbrev Writer :=
  HighlightPattern → Except DerivationError HighlightPattern

namespace Writer

/-- Write a text. -/
def text (content : String) : Writer := fun out =>
  .ok (out.write content)

/-- Write one part behind another. -/
def sequence (left right : Writer) : Writer := fun out => do
  right (← left out)

/-- Write texts around a part. -/
def between (before after : String) (body : Writer) : Writer := fun out => do
  return (← body (out.write before)).write after

/-- Write a part as a group with a scope. -/
def capture (scope : String) (body : Writer) : Writer := fun out => do
  return (← body (out.openScope scope)).write ")"

end Writer

/-- Write an element of the definition named `rule`. References are left to `follow`. -/
def Element.write (rule : String) (follow : Reference → Writer) : Element → Writer
  | .text _ content | .number _ content => .text (Regex.quote content)
  | .boolean _ value => .text (Regex.quote (if value then "true" else "false"))
  | .regex _ pattern times => .text (ScopedPattern.renderRegex pattern times)
  | .reference span name => follow ⟨name, span⟩
  | .sequence _ left right => .sequence (left.write rule follow) (right.write rule follow)
  | .choice span _ _ => fun _ => .error (.choice rule span)
  | .optional _ body => .between "(?:" ")?" (body.write rule follow)
  | .zeroOrMore _ body => .between "(?:" ")*" (body.write rule follow)
  | .oneOrMore _ body => .between "(?:" ")+" (body.write rule follow)
  | .not _ body => .between "(?!" ")" (body.write rule follow)
  | .marked _ _ body => body.write rule follow

/-- Write a reference to a definition, given how its body is written: an inline definition does not
show its scope. -/
def Definition.writeEnclosed (d : Definition) (suffix : Option String) (body : Writer) : Writer :=
  if d.isInline then body
  else
    match d.scope? suffix with
    | some scope => .capture scope body
    | none => body

/-- Whether one of the definitions in `expanding` is `d`. -/
def Definition.isAmong (d : Definition) (expanding : List Definition) : Bool :=
  expanding.any fun e => e.id == d.id

namespace Grammar

/-- The number of definitions that are not being expanded. -/
def remaining (g : Grammar) (expanding : List Definition) : Nat :=
  (g.definitions.filter fun d => !d.isAmong expanding).length

/-- Fewer definitions remain when another one is expanded. -/
theorem remaining_cons_lt {g : Grammar} {name : String} {expanding : List Definition}
    {d : Definition} (hfind : g.find? name = some d) (hnew : ¬ d.isAmong expanding = true) :
    g.remaining (d :: expanding) < g.remaining expanding := by
  have hsplit : (g.definitions.filter fun e => !e.isAmong (d :: expanding)) =
      (g.definitions.filter fun e => !e.isAmong expanding).filter fun e => !(d.id == e.id) := by
    rw [List.filter_filter]
    exact List.filter_congr fun e _ => by simp [Definition.isAmong]
  have hmem : d ∈ g.definitions.filter fun e => !e.isAmong expanding :=
    List.mem_filter.mpr ⟨List.mem_of_find?_eq_some hfind, by simpa using hnew⟩
  rw [remaining, remaining, hsplit]
  exact List.length_filter_lt_length_iff_exists.mpr ⟨d, hmem, by simp⟩

/-- Write a reference while definitions are being expanded, innermost first. -/
def writeReference (g : Grammar) (suffix : Option String) (expanding : List Definition)
    (r : Reference) : Writer := fun out =>
  match _hfind : g.find? r.name with
  | none => .error (.undefinedReference r.name r.span)
  | some d =>
    if _hnew : d.isAmong expanding then .error (.recursiveReference r.name r.span)
    else
      d.writeEnclosed suffix
        (d.body.write d.name fun inner => g.writeReference suffix (d :: expanding) inner) out
termination_by g.remaining expanding
decreasing_by exact remaining_cons_lt _hfind _hnew

/-- Write an element while definitions are being expanded, innermost first. -/
def writeElement (g : Grammar) (suffix : Option String) (expanding : List Definition)
    (e : Element) : Writer :=
  e.write ((expanding.head?.map Definition.name).getD "") (g.writeReference suffix expanding)

/-- The pattern of the body of a definition. -/
def writeBody (g : Grammar) (suffix : Option String) (d : Definition) :
    Except DerivationError HighlightPattern :=
  g.writeElement suffix [d] d.body .empty

/-- The pattern of a definition as one unit, which has the scope of the definition if there is
one. -/
def writeScoped (g : Grammar) (suffix : Option String) (d : Definition) :
    Except DerivationError HighlightPattern :=
  let body := g.writeElement suffix [d] d.body
  match d.scope? suffix with
  | some scope => Writer.capture scope body .empty
  | none => Writer.between "(?:" ")" body .empty

end Grammar

end Peg
