import Peg.Code.Identifier
import Peg.Config
import Peg.Program
import Peg.Text.Words

/-!
# Names in generated code

The functions and methods of generated code are named after the rules. Different rules may give rise
to the same name, and all but the first of them get a number behind it.
-/

namespace Peg.Code

open Peg.Text

/-- The name that is formed from a base and the first number from `start` on for which it has not
been taken. Among one more candidates than names taken, one is free. -/
def numberedName (taken : List String) (base : String) (start : Nat) : String :=
  let candidates := (List.range (taken.length + 1)).map fun k => s!"{base}_{start + k}"
  (candidates.find? fun name => !taken.contains name).getD base

/-- A name that has not been taken: the base itself, or the base with a number behind it. -/
def freeName (taken : List String) (base : String) (start : Nat) : String :=
  if taken.contains base then numberedName taken base start else base

/-- Different names for rules, of which the first has the number `index`, in order. -/
def namesFrom (taken : List String) (index : Nat) : List Rule → List String
  | [] => []
  | rule :: rules =>
    let name := freeName taken (snakeCase rule.name) index
    name :: namesFrom (name :: taken) (index + 1) rules

/-- The names of the rules of a program, in order. -/
def ruleNames (p : Program) : List String :=
  namesFrom [] 0 p.rules

/-- The function for a rule with a name of its own. -/
def functionName (name : String) : String :=
  identifier ("parse_" ++ name)

/-- The visitor method for a rule with a name of its own. -/
def methodName (name : String) : String :=
  identifier ("visit_" ++ name)

/-- The name of the visitor, which is made from the class name or else from the entry rule. -/
def visitorName (p : Program) (c : Config) : String :=
  pascalCase (c.className.getD (((p.rule? p.entry).map Rule.name).getD "")) ++ "Visitor"

/-- The name of the module around the code. -/
def moduleName (namespaceName : String) : String :=
  identifier (snakeCase namespaceName)

end Peg.Code
