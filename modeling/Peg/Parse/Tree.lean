import Peg.Program.Outline
import Peg.Text.Offset

/-!
# Parse trees

A node for a rule carries the name of the rule and the text that its terminals contributed. A leaf
carries no name and the text that it matched.
-/

namespace Peg

open Peg.Text

/-- A node of a parse tree, which spans the input from `start` to `stop`. -/
structure ParseTree where
  rule : Option String
  text : String
  start : Nat
  stop : Nat
  children : List ParseTree
  deriving Repr

namespace ParseTree

/-- The node without content. -/
def empty : ParseTree :=
  ⟨none, "", 0, 0, []⟩

/-- A leaf with the text it matched. -/
def leaf (text : String) (start stop : Nat) : ParseTree :=
  ⟨none, text, start, stop, []⟩

/-- The node of a rule that starts at an offset, as yet without content. -/
def ofRule (name : String) (start : Nat) : ParseTree :=
  ⟨some name, "", start, start, []⟩

/-- Whether the node stands for no rule. -/
def isLeaf (t : ParseTree) : Bool :=
  t.rule.isNone

/-- Put a node behind the children. -/
def addChild (t child : ParseTree) : ParseTree :=
  { t with children := t.children ++ [child] }

/-- Put text behind the text. -/
def addText (t : ParseTree) (text : String) : ParseTree :=
  { t with text := t.text ++ text }

/-- Take over the text and the children of another node. -/
def splice (t other : ParseTree) : ParseTree :=
  { t with text := t.text ++ other.text, children := t.children ++ other.children }

/-- The part of the input that the node spans, if its ends are boundaries of characters. -/
def matched? (t : ParseTree) (input : List Char) : Option (List Char) :=
  slice? input t.start t.stop

mutual

/-- The number of nodes in a tree. -/
def size : ParseTree → Nat
  | ⟨_, _, _, _, children⟩ => sizeOfAll children + 1

/-- The number of nodes in several trees. -/
def sizeOfAll : List ParseTree → Nat
  | [] => 0
  | t :: ts => t.size + sizeOfAll ts

end

/-- The size of two lists of trees is the sum of their sizes. -/
theorem sizeOfAll_append (ts us : List ParseTree) :
    sizeOfAll (ts ++ us) = sizeOfAll ts + sizeOfAll us := by
  induction ts with
  | nil => simp [sizeOfAll]
  | cons t ts ih => simp [sizeOfAll, ih, Nat.add_assoc]

/-- To visit a tree leaves fewer nodes to be visited. -/
theorem sizeOfAll_children_append_lt (t : ParseTree) (pending : List ParseTree) :
    sizeOfAll (t.children ++ pending) < sizeOfAll (t :: pending) := by
  obtain ⟨rule, text, start, stop, children⟩ := t
  simp only [sizeOfAll_append, sizeOfAll, size]
  omega

/-- The next node of a rule among the trees that remain to be visited, and what remains then. The
children of a tree are visited behind it and in front of the other trees. -/
def nextFrom? (name : String) : List ParseTree → Option (ParseTree × List ParseTree)
  | [] => none
  | t :: pending =>
    if t.rule = some name then some (t, t.children ++ pending)
    else nextFrom? name (t.children ++ pending)
termination_by pending => sizeOfAll pending
decreasing_by exact sizeOfAll_children_append_lt t pending

/-- To find a node leaves fewer nodes to be visited. -/
theorem sizeOfAll_lt_of_nextFrom? {name : String} {pending rest : List ParseTree} {t : ParseTree}
    (h : nextFrom? name pending = some (t, rest)) : sizeOfAll rest < sizeOfAll pending := by
  fun_induction nextFrom? with
  | case1 => cases h
  | case2 t pending =>
    obtain ⟨rfl, rfl⟩ := Prod.mk.inj (Option.some.inj h)
    exact sizeOfAll_children_append_lt t pending
  | case3 t pending _ ih => exact Nat.lt_trans (ih h) (sizeOfAll_children_append_lt t pending)

/-- The nodes of a rule that a search finds, one after the other, until there is no next one. -/
def findFrom (name : String) (pending : List ParseTree) : List ParseTree :=
  match _ : nextFrom? name pending with
  | none => []
  | some (t, rest) => t :: findFrom name rest
termination_by sizeOfAll pending
decreasing_by exact sizeOfAll_lt_of_nextFrom? ‹_›

/-- The nodes of a rule in a tree, each node before those below it. -/
def findAll (t : ParseTree) (name : String) : List ParseTree :=
  findFrom name [t]

/-- The line that stands for a node without its children. -/
def headline (t : ParseTree) : String :=
  match t.rule with
  | some name =>
    s!"{name} {t.start}..{t.stop}" ++ if t.text.isEmpty then "" else s!" = {quote t.text}"
  | none => s!"{quote t.text} {t.start}..{t.stop}"

mutual

/-- The lines of a tree at a depth. -/
def outlineAt (depth : Nat) : ParseTree → String
  | ⟨rule, text, start, stop, children⟩ =>
    indentation depth ++ headline ⟨rule, text, start, stop, children⟩ ++ "\n" ++
      outlineOfAll (depth + 1) children

/-- The lines of several trees at a depth. -/
def outlineOfAll (depth : Nat) : List ParseTree → String
  | [] => ""
  | t :: ts => t.outlineAt depth ++ outlineOfAll depth ts

end

/-- A tree as an indented outline, one node on a line. -/
def outline (t : ParseTree) : String :=
  t.outlineAt 0

end ParseTree

end Peg
