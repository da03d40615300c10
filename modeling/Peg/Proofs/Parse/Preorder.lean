import Mathlib.Data.List.Basic
import Peg.Parse.Tree

/-!
# Searching a tree

A search keeps the trees that remain to be visited on a stack, and stops at every node that it
finds. However often it has been stopped, what it has still to find are the nodes of the rule in the
preorders of these trees, one tree after the other. So it finds the nodes in the order of a
recursive walk, which is the ascending order of their places.
-/

namespace Peg.ParseTree

section Search

mutual

/-- The nodes of a tree, each before those below it, which come child by child. -/
def preorder : ParseTree → List ParseTree
  | ⟨rule, text, start, stop, children⟩ =>
    ⟨rule, text, start, stop, children⟩ :: preorderOfAll children

/-- The nodes of several trees, tree by tree. -/
def preorderOfAll : List ParseTree → List ParseTree
  | [] => []
  | t :: ts => t.preorder ++ preorderOfAll ts

end

/-- A tree comes before its children. -/
theorem preorder_eq (t : ParseTree) : t.preorder = t :: preorderOfAll t.children := by
  cases t
  rfl

/-- Trees in a row come one after the other. -/
theorem preorderOfAll_append (ts us : List ParseTree) :
    preorderOfAll (ts ++ us) = preorderOfAll ts ++ preorderOfAll us := by
  induction ts with
  | nil => rfl
  | cons t ts ih => rw [List.cons_append, preorderOfAll, ih, preorderOfAll, List.append_assoc]

/-- A visited tree leaves its children and the other trees. -/
theorem preorderOfAll_cons (t : ParseTree) (ts : List ParseTree) :
    preorderOfAll (t :: ts) = t :: preorderOfAll (t.children ++ ts) := by
  rw [preorderOfAll, preorder_eq, preorderOfAll_append, List.cons_append]

variable {name : String} {pending : List ParseTree}

/-- A search that finds nothing more has no node of the rule on its stack. -/
theorem filter_preorderOfAll_of_nextFrom?_eq_none (h : nextFrom? name pending = none) :
    (preorderOfAll pending).filter (fun node => node.rule = some name) = [] := by
  fun_induction nextFrom? with
  | case1 => rfl
  | case2 => cases h
  | case3 t pending hrule ih =>
    rw [preorderOfAll_cons, List.filter_cons_of_neg (by simpa using hrule), ih h]

/-- What a search finds next is the first of the nodes that it has still to find, and the nodes
behind that one are to be found in what remains. -/
theorem filter_preorderOfAll_of_nextFrom?_eq_some {t : ParseTree} {rest : List ParseTree}
    (h : nextFrom? name pending = some (t, rest)) :
    (preorderOfAll pending).filter (fun node => node.rule = some name) =
      t :: (preorderOfAll rest).filter fun node => node.rule = some name := by
  fun_induction nextFrom? with
  | case1 => cases h
  | case2 u pending hrule =>
    obtain ⟨rfl, rfl⟩ := Prod.mk.inj (Option.some.inj h)
    rw [preorderOfAll_cons, List.filter_cons_of_pos (by simpa using hrule)]
  | case3 u pending hrule ih =>
    rw [preorderOfAll_cons, List.filter_cons_of_neg (by simpa using hrule), ih h]

/-- A search finds the nodes of the rule in the preorders of the trees on its stack. -/
theorem findFrom_eq (name : String) (pending : List ParseTree) :
    findFrom name pending = (preorderOfAll pending).filter fun node => node.rule = some name := by
  fun_induction findFrom name pending with
  | case1 pending h => rw [filter_preorderOfAll_of_nextFrom?_eq_none h]
  | case2 pending t rest h ih => rw [filter_preorderOfAll_of_nextFrom?_eq_some h, ih]

/-- What a search answers when it is asked once more after `k` answers. When nothing is left to be
found there is no answer, however often it is asked. -/
def answer? (name : String) (pending : List ParseTree) : Nat → Option ParseTree
  | 0 => (nextFrom? name pending).map Prod.fst
  | k + 1 => (nextFrom? name pending).bind fun found => answer? name found.2 k

/-- The answers of a search are the nodes that it finds, and none behind the last of them. -/
theorem answer?_eq (name : String) (pending : List ParseTree) (k : Nat) :
    answer? name pending k = (findFrom name pending)[k]? := by
  induction k generalizing pending with
  | zero =>
    rw [answer?, findFrom]
    split
    next hnone => rw [hnone]; rfl
    next hsome => rw [hsome]; rfl
  | succ k ih =>
    rw [answer?, findFrom]
    split
    next hnone => rw [hnone]; rfl
    next t rest hsome => rw [hsome, Option.bind_some, ih rest]; rfl

end Search

section Places

/-- The node at a place, which gives the number of the child at every step down from the root. -/
def at? (t : ParseTree) : List Nat → Option ParseTree
  | [] => some t
  | i :: place => t.children[i]?.bind fun child => child.at? place

mutual

/-- The nodes of a tree in preorder, with their places. -/
def placed : ParseTree → List (List Nat × ParseTree)
  | ⟨rule, text, start, stop, children⟩ =>
    ([], ⟨rule, text, start, stop, children⟩) :: placedFrom 0 children

/-- The nodes of the children from the `i`-th on, with their places. -/
def placedFrom (i : Nat) : List ParseTree → List (List Nat × ParseTree)
  | [] => []
  | t :: ts => t.placed.map (fun p => (i :: p.1, p.2)) ++ placedFrom (i + 1) ts

end

mutual

/-- Without their addresses, the placed nodes are those of the preorder. -/
theorem map_snd_placed : ∀ t : ParseTree, t.placed.map Prod.snd = t.preorder
  | ⟨_, _, _, _, children⟩ => by
    rw [placed, preorder, List.map_cons, map_snd_placedFrom 0 children]

/-- Without their addresses, the placed nodes of several trees are those of the preorder. -/
theorem map_snd_placedFrom : ∀ (i : Nat) (ts : List ParseTree),
    (placedFrom i ts).map Prod.snd = preorderOfAll ts
  | _, [] => rfl
  | i, t :: ts => by
    rw [placedFrom, List.map_append, List.map_map, preorderOfAll, ← map_snd_placed t,
      map_snd_placedFrom (i + 1) ts]
    rfl

end

mutual

/-- An address has just the node to which it leads. -/
theorem mem_placed_iff : ∀ (t : ParseTree) (place : List Nat) (node : ParseTree),
    (place, node) ∈ t.placed ↔ t.at? place = some node
  | ⟨rule, text, start, stop, children⟩, [], node => by
    rw [placed, List.mem_cons, mem_placedFrom_iff 0 children]
    simp [at?, eq_comm]
  | ⟨rule, text, start, stop, children⟩, i :: place, node => by
    rw [placed, List.mem_cons, mem_placedFrom_iff 0 children]
    simp [at?]

/-- An address among several trees leads into one of them, and from there to its node. -/
theorem mem_placedFrom_iff : ∀ (i : Nat) (ts : List ParseTree) (place : List Nat)
    (node : ParseTree), (place, node) ∈ placedFrom i ts ↔
      ∃ j rest, place = (i + j) :: rest ∧ ts[j]?.bind (fun t => t.at? rest) = some node
  | i, [], place, node => by simp [placedFrom]
  | i, t :: ts, place, node => by
    rw [placedFrom, List.mem_append, mem_placedFrom_iff (i + 1) ts, List.mem_map]
    constructor
    · rintro (⟨⟨rest, u⟩, hu, heq⟩ | ⟨j, rest, rfl, hnode⟩)
      · obtain ⟨rfl, rfl⟩ := Prod.mk.inj heq
        exact ⟨0, rest, rfl, (mem_placed_iff t rest u).mp hu⟩
      · exact ⟨j + 1, rest, by rw [Nat.add_right_comm, Nat.add_assoc], hnode⟩
    · rintro ⟨j, rest, rfl, hnode⟩
      cases j with
      | zero => exact .inl ⟨(rest, node), (mem_placed_iff t rest node).mpr hnode, rfl⟩
      | succ j => exact .inr ⟨j, rest, by rw [Nat.add_right_comm, Nat.add_assoc], hnode⟩

end

/-- The place of a node below the `i`-th child or a later one starts with `i` or a later number. -/
theorem exists_of_mem_placedFrom {i : Nat} {ts : List ParseTree} {p : List Nat × ParseTree}
    (h : p ∈ placedFrom i ts) : ∃ j rest, p.1 = j :: rest ∧ i ≤ j := by
  obtain ⟨j, rest, hplace, -⟩ := (mem_placedFrom_iff i ts p.1 p.2).mp h
  exact ⟨i + j, rest, hplace, Nat.le_add_right i j⟩

mutual

/-- The addresses in a tree ascend. -/
theorem placed_ascending : ∀ t : ParseTree, t.placed.Pairwise fun p q => p.1 < q.1
  | ⟨rule, text, start, stop, children⟩ => by
    refine List.pairwise_cons.mpr ⟨fun p hp => ?_, placedFrom_ascending 0 children⟩
    obtain ⟨j, rest, hplace, -⟩ := exists_of_mem_placedFrom hp
    rw [hplace]
    exact List.nil_lt_cons j rest

/-- The addresses in several trees ascend. -/
theorem placedFrom_ascending : ∀ (i : Nat) (ts : List ParseTree),
    (placedFrom i ts).Pairwise fun p q => p.1 < q.1
  | _, [] => .nil
  | i, t :: ts => by
    refine List.pairwise_append.mpr ⟨?_, placedFrom_ascending (i + 1) ts, fun p hp q hq => ?_⟩
    · refine List.pairwise_map.mpr ((placed_ascending t).imp fun hlt => ?_)
      exact List.cons_lt_cons_iff.mpr (.inr ⟨rfl, hlt⟩)
    · obtain ⟨p, -, rfl⟩ := List.mem_map.mp hp
      obtain ⟨j, rest, hplace, hij⟩ := exists_of_mem_placedFrom hq
      rw [hplace]
      exact List.cons_lt_cons_iff.mpr (.inl hij)

end

end Places

/-- A search of a tree that is asked again and again gives the nodes of the rule in the order of a
recursive walk through the tree, and then no answer any more. It finds a node at every place where
there is one, in ascending order of the places, and so it finds none of them twice. -/
theorem findAll_exact (t : ParseTree) (name : String) :
    t.findAll name = t.preorder.filter (fun node => node.rule = some name) ∧
      (∀ k, answer? name [t] k = (t.findAll name)[k]?) ∧
      ∃ found : List (List Nat × ParseTree), found.map Prod.snd = t.findAll name ∧
        found.Pairwise (fun p q => p.1 < q.1) ∧
        ∀ place node, (place, node) ∈ found ↔ t.at? place = some node ∧ node.rule = some name := by
  have hwalk : t.findAll name = t.preorder.filter fun node => node.rule = some name := by
    rw [findAll, findFrom_eq, preorderOfAll, preorderOfAll, List.append_nil]
  refine ⟨hwalk, answer?_eq name [t], t.placed.filter fun p => p.2.rule = some name, ?_,
    (placed_ascending t).filter _, fun place node => ?_⟩
  · rw [hwalk, ← map_snd_placed, List.filter_map]
    rfl
  · rw [List.mem_filter, mem_placed_iff, decide_eq_true_eq]

end Peg.ParseTree
