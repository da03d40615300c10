import Peg.Grammar.Variation

/-!
# Relevant rules

A rule keeps its own node if there is something to learn from it: the text of its match may vary, or
it is referred to in a place where it is not certain that it matches at all. Nothing is learned
below a terminal, a dropped element or a negation.
-/

namespace Peg

/-- A reference whose match shows in the tree. It is forced if it is not certain to be matched. -/
structure LiveReference where
  name : String
  forced : Bool
  deriving DecidableEq, Repr

/-- The references in an element whose matches show in the tree, in order, when the element itself
is forced or not. -/
def Element.liveReferences (forced : Bool) : Element → List LiveReference
  | .reference _ name => [⟨name, forced⟩]
  | .sequence _ left right => left.liveReferences forced ++ right.liveReferences forced
  | .choice _ left right => left.liveReferences true ++ right.liveReferences true
  | .optional _ body | .zeroOrMore _ body => body.liveReferences true
  | .oneOrMore _ body => body.liveReferences forced
  | .marked _ .drop _ | .marked _ (.terminal _) _ => []
  | .marked _ _ body => body.liveReferences forced
  | .not _ _ | .text _ _ | .regex _ _ _ | .number _ _ | .boolean _ _ => []

namespace Relevance

/-- The relevant rules in the order in which they were found, and the definitions whose bodies have
been walked. -/
structure Walk where
  relevant : List Nat
  walked : List Nat
  deriving DecidableEq, Repr

namespace Walk

/-- Count a rule as relevant. -/
def keep (w : Walk) (id : Nat) : Walk :=
  if w.relevant.contains id then w else { w with relevant := w.relevant ++ [id] }

end Walk

/-- Follow a reference while the definitions in `expanding` are being expanded. An inline definition
is expanded in place, and any other one is walked once. At most `budget` references are followed
inside each other. -/
def follow (g : Grammar) : Nat → List Nat → LiveReference → Walk → Walk
  | 0, _, _, w => w
  | budget + 1, expanding, reference, w =>
    match g.find? reference.name with
    | none => w
    | some d =>
      if d.isInline then
        if expanding.contains d.id then w
        else
          (d.body.liveReferences reference.forced).foldl
            (fun w r => follow g budget (d.id :: expanding) r w) w
      else
        let w := if !d.isDropped && (reference.forced || g.matchesVariableText d.body) then
          w.keep d.id else w
        if w.walked.contains d.id then w
        else
          (d.body.liveReferences false).foldl (fun w r => follow g budget expanding r w)
            { w with walked := d.id :: w.walked }

end Relevance

/-- The rules that keep their own nodes, in the order in which they are found from the root. -/
def Grammar.relevantRules (g : Grammar) (root : Definition) : List Nat :=
  let start : Relevance.Walk := ⟨if root.isDropped then [] else [root.id], [root.id]⟩
  ((root.body.liveReferences false).foldl
    (fun w r => Relevance.follow g (2 * g.size + 1) [] r w) start).relevant

end Peg
