import Peg.Finding
import Peg.Grammar

/-!
# Reachability

Which definitions can be reached from others by following references, nearest first, and what
follows from it: the rules that a parser needs, and those that nothing uses.
-/

namespace Peg

/-- The members of a list that are not in `found`, each once, in order. -/
def unfound (found : List Nat) : List Nat → List Nat
  | [] => []
  | id :: ids =>
    if found.contains id then unfound found ids else id :: unfound (id :: found) ids

/-- Everything that can be reached from what has been found, nearest first. Of what has been found,
`waiting` still has to be looked at, and at most `budget` looks are taken. -/
def explore (next : Nat → List Nat) : Nat → List Nat → List Nat → List Nat
  | 0, _, found => found
  | _ + 1, [], found => found
  | budget + 1, id :: waiting, found =>
    let fresh := unfound found (next id)
    explore next budget (waiting ++ fresh) (found ++ fresh)

namespace Grammar

/-- Everything that can be reached from given definitions. No definition is looked at twice. -/
def reachable (g : Grammar) (next : Definition → List Nat) (start : List Nat) : List Nat :=
  explore (fun id => ((g.get? id).map next).getD []) g.size start start

/-- The definitions with given names. -/
def resolve (g : Grammar) (names : List String) : List Definition :=
  names.filterMap g.find?

/-- The rules that the body of a definition refers to. -/
def ruleTargets (g : Grammar) (d : Definition) : List Nat :=
  ((g.resolve (d.body.references.map Reference.name)).filter fun t => t.kind = .rule).map
    Definition.id

/-- The definitions that a definition refers to in its body or in a property for highlighting. -/
def dependencies (g : Grammar) (d : Definition) : List Nat :=
  (g.resolve (d.body.references.map Reference.name ++
    ["begin", "end", "include"].flatMap d.propertyNames)).map Definition.id

/-- Whether a definition exists and is inline. -/
def isInlineId (g : Grammar) (id : Nat) : Bool :=
  ((g.get? id).map Definition.isInline).getD false

/-- The rules that a parser needs, the root first. Inline definitions are looked through, unless the
root is one. -/
def callableRules (g : Grammar) (root : Nat) : List Nat :=
  (g.reachable g.ruleTargets [root]).filter fun id => id == root || !g.isInlineId id

/-- The rules that neither the root nor any highlight definition depends on. -/
def unusedRules (g : Grammar) (root : Nat) : List Definition :=
  let used := g.reachable g.dependencies (root :: g.highlights.map Definition.id)
  g.rules.filter fun d => !used.contains d.id

/-- What is reported of a rule that is not used. -/
def unusedFinding (d : Definition) : Finding :=
  .detailed .unusedDefinition d.nameSpan d.name

end Grammar

end Peg
