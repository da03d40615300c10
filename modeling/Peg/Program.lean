import Peg.Combinator
import Peg.Text.TextSet

/-!
# Programs

A parser as a table of named rules with the rule at which a parse starts.
-/

namespace Peg

/-- A named rule. A call of a captured rule yields a node of its own; the output of any other rule
goes to the caller. -/
structure Rule where
  name : String
  body : Combinator
  capture : Bool
  deriving DecidableEq, Repr

/-- Why rules do not make a program. -/
inductive ProgramError where
  | empty
  | tooManyRules (count : Nat)
  | entryOutOfRange (entry : RuleId)
  | danglingCall (rule : String) (target : RuleId)
  | duplicateName (name : String)
  deriving DecidableEq, Repr

/-- The greatest number of rules in a program. -/
def maxRules : Nat := 65535

/-- What is reported when rules do not make a program. -/
def ProgramError.message : ProgramError → String
  | .empty => "program has no rules"
  | .tooManyRules count => s!"too many rules ({count}), at most {maxRules} are supported"
  | .entryOutOfRange entry => s!"entry rule {entry.render} is out of range"
  | .danglingCall rule target => s!"rule `{rule}` calls {target.render}, which does not exist"
  | .duplicateName name => s!"rule name `{name}` is used twice"

namespace Program

/-- The first rule, in order, whose name is taken or which calls a rule that does not exist. The
names of the rules before are given. -/
def ruleDefect? (count : Nat) (names : Text.TextSet) : List Rule → Option ProgramError
  | [] => none
  | rule :: rules =>
    if names.contains rule.name then some (.duplicateName rule.name)
    else
      match rule.body.calls.find? fun target => count ≤ target.index with
      | some target => some (.danglingCall rule.name target)
      | none => ruleDefect? count (names.insert rule.name) rules

/-- What keeps rules and an entry from being a program. -/
def defect? (rules : List Rule) (entry : RuleId) : Option ProgramError :=
  if rules.isEmpty then some .empty
  else if maxRules < rules.length then some (.tooManyRules rules.length)
  else if rules.length ≤ entry.index then some (.entryOutOfRange entry)
  else ruleDefect? rules.length .empty rules

end Program

/-- Rules and the one at which a parse starts, without defects. -/
structure Program where
  rules : List Rule
  entry : RuleId
  sound : Program.defect? rules entry = none
  deriving DecidableEq, Repr

namespace Program

/-- The program with the given rules and entry. -/
def ofRules (rules : List Rule) (entry : RuleId) : Except ProgramError Program :=
  match h : defect? rules entry with
  | some e => .error e
  | none => .ok ⟨rules, entry, h⟩

/-- The rule with a number. -/
def rule? (p : Program) (id : RuleId) : Option Rule :=
  p.rules[id.index]?

/-- The number of the rule with a name. -/
def find? (p : Program) (name : String) : Option RuleId :=
  (p.rules.findIdx? fun rule => rule.name == name).map RuleId.mk

/-- Every pattern of the program with its repeat count, in the order of first use. -/
def patterns (p : Program) : List (String × Nat) :=
  (p.rules.flatMap fun rule => rule.body.patterns).eraseDups

end Program

end Peg
