import Peg.Analysis.InlineCycle
import Peg.Analysis.Names
import Peg.Analysis.Reach
import Peg.Analysis.Relevance

/-!
# Analysis of grammars

What the generation of parsers and of highlighting needs to know about a grammar, and what its
author should know.
-/

namespace Peg

/-- Facts about a grammar, in terms of the numbers of its definitions. -/
structure Analysis where
  root : Option Nat
  /-- The rules that the parser needs, the root first. -/
  callable : List Nat
  /-- The rules that keep their own nodes. -/
  relevant : List Nat
  /-- The rules that are not used, in order. -/
  unused : List Nat
  deriving DecidableEq, Repr

namespace Analysis

/-- Whether the parser needs a rule. -/
def isCallable (a : Analysis) (id : Nat) : Bool :=
  a.callable.contains id

/-- Whether a rule keeps its own node. -/
def isRelevant (a : Analysis) (id : Nat) : Bool :=
  a.relevant.contains id

end Analysis

namespace Grammar

/-- The rule with a name. -/
def rule? (g : Grammar) (name : String) : Option Definition :=
  (g.find? name).filter fun d => d.kind = .rule

/-- Analyse a grammar whose parser starts at the rule named by `root`. Without such a rule nothing
is said about what can be reached. -/
def analyze (g : Grammar) (root : Option String) : Analysis × List Finding :=
  let findings := g.nameFindings ++ g.inlineCycleFindings
  match root.bind g.rule? with
  | none => (⟨none, [], [], []⟩, findings)
  | some r =>
    let unused := g.unusedRules r.id
    (⟨some r.id, g.callableRules r.id, g.relevantRules r, unused.map Definition.id⟩,
      findings ++ unused.map unusedFinding)

end Grammar

end Peg
