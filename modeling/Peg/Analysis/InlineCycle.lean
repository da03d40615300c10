import Peg.Finding
import Peg.Grammar

/-!
# Cycles of inline definitions

An inline definition that leads back to itself cannot be expanded. References are followed depth
first, each definition once. A reference to a definition that is still being followed closes a
cycle, which is reported if that definition is inline. Any other cycle is ordinary recursion.
-/

namespace Peg

/-- A step along a path: the definition that is left, and the place of the reference through which
it is left. -/
structure InlineCycle.Step where
  source : Nat
  span : Span
  deriving DecidableEq, Repr

/-- A closed path, which starts and ends at the source of its first step. -/
structure InlineCycle where
  steps : List InlineCycle.Step
  deriving DecidableEq, Repr

namespace InlineCycle

/-- What has been found on the way: the definitions that have been entered, the latest first, and
the cycles in the order in which they were closed. -/
structure Search where
  entered : List Nat
  cycles : List InlineCycle
  deriving DecidableEq, Repr

/-- The part of a path that starts at a definition, in the direction of the references, if the
definition is on the path. The path has its latest step first. -/
def since? (id : Nat) : List Step → Option (List Step)
  | [] => none
  | step :: path =>
    if step.source = id then some [step]
    else (since? id path).map fun steps => steps ++ [step]

/-- Follow the references of a definition that is reached by a path. At most `budget` more
definitions can be entered along the path. -/
def follow (g : Grammar) : Nat → List Step → Definition → Search → Search
  | 0, _, _, s => s
  | budget + 1, path, d, s =>
    if s.entered.contains d.id then s
    else
      d.body.references.foldl (fun s r =>
        match g.find? r.name with
        | none => s
        | some target =>
          let path := ⟨d.id, r.span⟩ :: path
          match since? target.id path with
          | none => follow g budget path target s
          | some steps =>
            if target.isInline then { s with cycles := s.cycles ++ [⟨steps⟩] } else s)
        { s with entered := d.id :: s.entered }

/-- The names along a cycle, with that of the first definition once more at the end. -/
def names (g : Grammar) (c : InlineCycle) : List String :=
  let around := c.steps.map fun step => ((g.get? step.source).map Definition.name).getD ""
  around ++ around.take 1

/-- What is reported of a cycle: it is placed at the name of its first definition, and every
reference along it gets a note. -/
def finding (g : Grammar) (c : InlineCycle) : Finding :=
  let names := c.names g
  let place := ((c.steps.head?.bind fun step => g.get? step.source).map Definition.nameSpan).getD
    ⟨0, 0⟩
  let notes := (names.zip names.tail).zipWith (fun (source, target) step =>
    (⟨s!"{source} references {target}", step.span⟩ : Note)) c.steps
  ⟨.inlineCycle, place, FindingKind.inlineCycle.detailed (" -> ".intercalate names), notes⟩

end InlineCycle

namespace Grammar

/-- The cycles of a grammar, each closed at an inline definition. -/
def inlineCycles (g : Grammar) : List InlineCycle :=
  (g.definitions.foldl (fun s d => InlineCycle.follow g (g.size + 1) [] d s) ⟨[], []⟩).cycles

/-- What is reported of the inline cycles of a grammar. -/
def inlineCycleFindings (g : Grammar) : List Finding :=
  g.inlineCycles.map (InlineCycle.finding g)

end Grammar

end Peg
