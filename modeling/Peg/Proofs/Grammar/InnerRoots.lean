import Peg.Proofs.Grammar.Compositionality

/-!
# Roots inside a tree

A root that is not the outermost one makes a grammar of its own, which is given up as soon as the
next root is left. It hands nothing to the nodes around it. So the outcome is that of the tree in
which blank space stands in place of the inner roots, provided that these can be left at all.
-/

namespace Peg

open Peg.Text

namespace SyntaxTree

mutual

/-- The tree with blank space in place of every root. -/
def blankRoots : SyntaxTree → SyntaxTree
  | .token kind text => .token kind text
  | .node kind children =>
    if kind = .root then .token .whitespace (textOfAll children)
    else .node kind (blankRootsOfAll children)

/-- The trees with blank space in place of every root. -/
def blankRootsOfAll : List SyntaxTree → List SyntaxTree
  | [] => []
  | t :: ts => t.blankRoots :: blankRootsOfAll ts

end

mutual

/-- The width of a tree is that of its text. -/
theorem byteLength_text : ∀ t : SyntaxTree, byteLength t.text.toList = t.width
  | .token _ _ => rfl
  | .node _ children => by
    rw [text, width]
    exact byteLength_textOfAll children

/-- The width of trees is that of their texts. -/
theorem byteLength_textOfAll : ∀ ts : List SyntaxTree,
    byteLength (textOfAll ts).toList = widthOfAll ts
  | [] => rfl
  | t :: ts => by
    rw [textOfAll, widthOfAll, String.toList_append, byteLength_append, byteLength_text t,
      byteLength_textOfAll ts]

end

mutual

/-- Blank space in place of roots has the same width. -/
@[simp] theorem width_blankRoots : ∀ t : SyntaxTree, t.blankRoots.width = t.width
  | .token _ _ => rfl
  | .node kind children => by
    rw [blankRoots]
    split
    · rw [width, width, byteLength_textOfAll]
    · rw [width, width, widthOfAll_blankRootsOfAll children]

/-- Blank space in place of roots has the same width in all of the trees. -/
@[simp] theorem widthOfAll_blankRootsOfAll : ∀ ts : List SyntaxTree,
    widthOfAll (blankRootsOfAll ts) = widthOfAll ts
  | [] => rfl
  | t :: ts => by
    rw [blankRootsOfAll, widthOfAll, widthOfAll, width_blankRoots t, widthOfAll_blankRootsOfAll ts]

end

mutual

/-- No root is left with blank space in place of each. -/
theorem rootFree_blankRoots : ∀ t : SyntaxTree, t.blankRoots.RootFree
  | .token _ _ => trivial
  | .node kind children => by
    rw [blankRoots]
    split
    · trivial
    next hkind => exact ⟨hkind, allRootFree_blankRootsOfAll children⟩

/-- No root is left in any of the trees with blank space in place of each. -/
theorem allRootFree_blankRootsOfAll : ∀ ts : List SyntaxTree, AllRootFree (blankRootsOfAll ts)
  | [] => trivial
  | t :: ts => ⟨rootFree_blankRoots t, allRootFree_blankRootsOfAll ts⟩

end

end SyntaxTree

namespace Reduction

variable {base : Operands} {span : Span} {s s' : State}

/-- A root that is left makes a grammar of the values in its scope and puts nothing on the stack. -/
theorem leave_root_eq_ok (hbase : base.Leveled) {values : List Operand}
    (hs : s.stack = base.above values.reverse) (h : leave .root span s = .ok s') :
    Reading.ofRoot span values = .ok s'.grammar ∧ s'.stack = base := by
  obtain ⟨result, hroot, hdone⟩ := bind_eq_ok_iff.mp h
  rw [hs, leaveRoot_above hbase, List.reverse_reverse] at hroot
  obtain ⟨grammar, hgrammar, rfl⟩ := map_eq_ok_iff.mp hroot
  cases hdone
  exact ⟨hgrammar, rfl⟩

/-- Any other node that is left puts its values on the stack. -/
theorem leave_inner_eq_ok {kind : NodeKind} (hkind : kind ≠ .root) (hbase : base.Leveled)
    {values : List Operand} (hs : s.stack = base.above values.reverse)
    (h : leave kind span s = .ok s') :
    ∃ own, Reading.ofNode kind span values = .ok own ∧ s'.stack = base.pushAll own := by
  have hleave := leave_above hkind span { s with stack := base } hbase values.reverse
  dsimp only at hleave
  rw [← hs, h, List.reverse_reverse] at hleave
  obtain ⟨own, hown, rfl⟩ := map_eq_ok_iff.mp hleave.symm
  exact ⟨own, hown, rfl⟩

mutual

/-- A walk that succeeds puts on the stack what the tree with blank space in place of its roots
means. -/
theorem exists_values_of_walk (start : Nat) : ∀ (t : SyntaxTree) (s s' : State),
    s.stack.Leveled → walk start t s = .ok s' →
      ∃ values, Reading.values start t.blankRoots = .ok values ∧
        s'.stack = s.stack.pushAll values
  | .token kind text, s, s', _, h => by
    rw [walk, shift_ofToken] at h
    rw [SyntaxTree.blankRoots, Reading.values]
    obtain ⟨stack, hstack, hdone⟩ := bind_eq_ok_iff.mp h
    obtain ⟨values, hvalues, rfl⟩ := map_eq_ok_iff.mp hstack
    cases hdone
    exact ⟨values, hvalues, rfl⟩
  | .node kind children, s, s', hs, h => by
    rw [walk] at h
    obtain ⟨inside, hinside, hleave⟩ := bind_eq_ok_iff.mp h
    obtain ⟨values, hvalues, hstack⟩ := exists_values_of_walkAll start children
      { s with stack := s.stack.enter } inside (hs.above []) hinside
    rw [ScopedStack.enter_eq_above, ScopedStack.pushAll_above, List.append_nil] at hstack
    rw [SyntaxTree.blankRoots]
    split
    next hkind =>
      -- The values in the root are in the grammar that is given up.
      subst hkind
      exact ⟨[], rfl, (leave_root_eq_ok hs hstack hleave).2⟩
    next hkind =>
      obtain ⟨own, hown, hresult⟩ := leave_inner_eq_ok hkind hs hstack hleave
      refine ⟨own, ?_, hresult⟩
      rw [Reading.values, hvalues, ok_bind, SyntaxTree.widthOfAll_blankRootsOfAll, hown]

/-- Walking through trees puts on the stack what they mean with blank space in place of the
roots. -/
theorem exists_values_of_walkAll (start : Nat) : ∀ (ts : List SyntaxTree) (s s' : State),
    s.stack.Leveled → walkAll start ts s = .ok s' →
      ∃ values, Reading.valuesOfAll start (SyntaxTree.blankRootsOfAll ts) = .ok values ∧
        s'.stack = s.stack.pushAll values
  | [], _, _, _, h => by
    cases h
    exact ⟨[], rfl, rfl⟩
  | t :: ts, s, s', hs, h => by
    rw [walkAll] at h
    obtain ⟨middle, hfirst, hrest⟩ := bind_eq_ok_iff.mp h
    obtain ⟨first, hfirst, hmiddle⟩ := exists_values_of_walk start t s middle hs hfirst
    obtain ⟨rest, hrest, hlast⟩ := exists_values_of_walkAll (start + t.width) ts middle s'
      (hmiddle ▸ hs.pushAll first) hrest
    refine ⟨first ++ rest, ?_, ?_⟩
    · rw [SyntaxTree.blankRootsOfAll, Reading.valuesOfAll, hfirst, ok_bind,
        SyntaxTree.width_blankRoots, hrest]
      rfl
    · rw [hlast, hmiddle, ScopedStack.pushAll_append]

end

/-- The grammar of a tree is the one that is read from the tree with blank space in place of its
inner roots. -/
theorem grammar_of_ofTree {children : List SyntaxTree} {g : Grammar}
    (h : Grammar.ofTree (.node .root children) = .ok g) :
    Reading.grammar (SyntaxTree.blankRootsOfAll children) = .ok g := by
  have hkind : (SyntaxTree.node .root children).kind = .node .root := rfl
  rw [Grammar.ofTree, if_pos hkind] at h
  obtain ⟨s, hwalk, hresult⟩ := bind_eq_ok_iff.mp h
  cases hresult
  rw [walk] at hwalk
  obtain ⟨inside, hinside, hleave⟩ := bind_eq_ok_iff.mp hwalk
  obtain ⟨values, hvalues, hstack⟩ := exists_values_of_walkAll 0 children _ inside
    (ScopedStack.leveled_empty.above []) hinside
  rw [ScopedStack.enter_eq_above, ScopedStack.pushAll_above, List.append_nil] at hstack
  have hroot := (leave_root_eq_ok ScopedStack.leveled_empty hstack hleave).1
  rw [Nat.zero_add] at hroot
  rw [Reading.grammar, hvalues, ok_bind, SyntaxTree.widthOfAll_blankRootsOfAll, hroot]

end Reduction

end Peg
