import Peg.Program

/-!
# Outlines of programs

A program as an indented outline, one operation on a line.
-/

namespace Peg

/-- The spaces in front of a line at a depth. -/
def indentation (depth : Nat) : String :=
  String.join (List.replicate depth "  ")

/-- The line that stands for an operation, without its operands. -/
def Combinator.headline (p : Program) : Combinator → String
  | .literal text => Text.quote text
  | .pattern source times => if times = 1 then s!"/{source}/" else s!"/{source}/\x7b{times}\x7d"
  | .sequence _ _ => "seq"
  | .choice _ _ => "choice"
  | .repetition min max _ =>
    match max with
    | some max => s!"repeat {min}..={max}"
    | none => s!"repeat {min}.."
  | .not _ => "not"
  | .drop _ => "drop"
  | .terminal unescape _ => if unescape then "terminal unescape" else "terminal"
  | .errorName label promote _ =>
    s!"error_name {Text.quote label} " ++ if promote then "promote" else "always"
  | .call id => s!"call {id.render} " ++ ((p.rule? id).map Rule.name).getD "?"

/-- The lines of an operation and its operands. -/
def Combinator.outline (p : Program) (depth : Nat) (c : Combinator) : String :=
  let line := indentation depth ++ c.headline p ++ "\n"
  match c with
  | .sequence left right | .choice left right =>
    line ++ left.outline p (depth + 1) ++ right.outline p (depth + 1)
  | .repetition _ _ body | .not body | .drop body | .terminal _ body | .errorName _ _ body =>
    line ++ body.outline p (depth + 1)
  | .literal _ | .pattern _ _ | .call _ => line

namespace Program

/-- The lines of the rule with a number. -/
def ruleOutline (p : Program) (rule : Rule) (id : RuleId) : String :=
  let entry := if id = p.entry then " (entry)" else ""
  let spliced := if rule.capture then "" else " (spliced)"
  s!"{id.render} {rule.name}{entry}{spliced}\n" ++ rule.body.outline p 1

/-- The lines of all rules. -/
def outline (p : Program) : String :=
  String.join (p.rules.mapIdx fun i rule => p.ruleOutline rule ⟨i⟩)

end Program

end Peg
