import Peg.Grammar

/-!
# Variable text

Whether two matches of an element may consist of different texts. A literal never varies, and what a
negation or a dropped element matches is not kept. A choice or a repetition varies, because its text
depends on the branch or on the number of turns.
-/

namespace Peg

namespace Element

/-- Whether the text of a match may vary, given the answer for references. -/
def varies (follow : String → Bool) : Element → Bool
  | .text _ _ | .number _ _ | .boolean _ _ | .not _ _ => false
  | .regex _ _ _ => true
  | .reference _ name => follow name
  | .sequence _ left right => left.varies follow || right.varies follow
  | .choice _ _ _ | .optional _ _ | .zeroOrMore _ _ | .oneOrMore _ _ => true
  | .marked _ .drop _ => false
  | .marked _ _ body => body.varies follow

end Element

namespace Grammar

/-- Whether a match of the definition with a name may vary, when at most `budget` definitions may be
entered and those in `entered` are under way. Cycles and undefined names do not vary. -/
def nameVaries (g : Grammar) : Nat → List Nat → String → Bool
  | 0, _, _ => false
  | budget + 1, entered, name =>
    match g.find? name with
    | none => false
    | some d =>
      if entered.contains d.id then false
      else d.body.varies (g.nameVaries budget (d.id :: entered))

/-- Whether a match of an element may vary. No definition is entered twice on the way. -/
def matchesVariableText (g : Grammar) (element : Element) : Bool :=
  element.varies (g.nameVaries (g.size + 1) [])

end Grammar

end Peg
