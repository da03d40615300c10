import Mathlib.Logic.Relation
import Peg.Proofs.Parse.Output

/-!
# The places of the nodes of a tree

The nodes of a tree are nested as their places in the input are: what a node stands for lies inside
what its parent stands for and behind what its elder siblings stand for. Output is spliced from one
node to another while a tree is put together, so this is said of whole stretches of output first.
-/

namespace Peg

open Peg.Text

namespace ParseTree

/-- A node is one of the children of another one. -/
def IsChild (t parent : ParseTree) : Prop :=
  t ∈ parent.children

/-- A node is below another one: it is a child of it, or below a child of it. -/
def Below : ParseTree → ParseTree → Prop :=
  Relation.TransGen IsChild

/-- A node is at a place of the input, and its children are inside of it, one behind the other. -/
structure WellPlaced (input : List Char) (t : ParseTree) : Prop where
  start_le_stop : t.start ≤ t.stop
  stop_le : t.stop ≤ byteLength input
  inside : ∀ child ∈ t.children, t.start ≤ child.start ∧ child.stop ≤ t.stop
  ordered : t.children.Pairwise fun first second => first.stop ≤ second.start

/-- A node is well placed, and a leaf is nothing but the text at its place. -/
structure Faithful (input : List Char) (t : ParseTree) : Prop where
  placed : t.WellPlaced input
  leaf : t.isLeaf = true → t.children = [] ∧ t.matched? input = some t.text.toList

/-- Nodes lie between two offsets of the input, one behind the other, and they and all nodes below
them are faithful. -/
structure Laid (input : List Char) (i j : Nat) (ts : List ParseTree) : Prop where
  le : i ≤ j
  le_byteLength : j ≤ byteLength input
  inside : ∀ t ∈ ts, i ≤ t.start ∧ t.stop ≤ j
  ordered : ts.Pairwise fun first second => first.stop ≤ second.start
  faithful : ∀ t ∈ ts, ∀ u, Relation.ReflTransGen IsChild u t → u.Faithful input

variable {input : List Char} {i j k : Nat}

/-- An empty list of trees is laid out over every stretch of input. -/
theorem laid_nothing (hj : isBoundary input j = true) (hle : i ≤ j) : Laid input i j [] where
  le := hle
  le_byteLength := le_byteLength_of_isBoundary hj
  inside _ h := nomatch h
  ordered := .nil
  faithful _ h := nomatch h

/-- A leaf is laid out over the stretch of input it holds. -/
theorem laid_leaf (hi : isBoundary input i = true) (hj : isBoundary input j = true)
    (hle : i ≤ j) : Laid input i j [.leaf (String.ofList (slice input i j)) i j] where
  le := hle
  le_byteLength := le_byteLength_of_isBoundary hj
  inside t ht := by
    obtain rfl := List.mem_singleton.mp ht
    exact ⟨Nat.le_refl i, Nat.le_refl j⟩
  ordered := List.pairwise_singleton _ _
  faithful t ht u hu := by
    obtain rfl := List.mem_singleton.mp ht
    have hplaced : (leaf (String.ofList (slice input i j)) i j).WellPlaced input :=
      ⟨hle, le_byteLength_of_isBoundary hj, nofun, .nil⟩
    rcases hu.cases_tail with rfl | ⟨_, _, hchild⟩
    · exact ⟨hplaced, fun _ => ⟨rfl, by simp [matched?, leaf, slice?, hi, hj, hle]⟩⟩
    · cases hchild

/-- Trees that are laid out over adjacent stretches are laid out over both together. -/
theorem Laid.append {front back : List ParseTree} (hfront : Laid input i j front)
    (hback : Laid input j k back) : Laid input i k (front ++ back) where
  le := Nat.le_trans hfront.le hback.le
  le_byteLength := hback.le_byteLength
  inside t ht := by
    rcases List.mem_append.mp ht with ht | ht
    · obtain ⟨hstart, hstop⟩ := hfront.inside t ht
      exact ⟨hstart, Nat.le_trans hstop hback.le⟩
    · obtain ⟨hstart, hstop⟩ := hback.inside t ht
      exact ⟨Nat.le_trans hfront.le hstart, hstop⟩
  ordered := by
    refine List.pairwise_append.mpr ⟨hfront.ordered, hback.ordered, ?_⟩
    intro t ht u hu
    exact Nat.le_trans (hfront.inside t ht).2 (hback.inside u hu).1
  faithful t ht :=
    (List.mem_append.mp ht).elim (fun ht => hfront.faithful t ht) fun ht => hback.faithful t ht

/-- A node around everything between two offsets is well placed. -/
theorem Laid.wellPlaced {rule : Option String} {text : String} {children : List ParseTree}
    (h : Laid input i j children) : WellPlaced input ⟨rule, text, i, j, children⟩ :=
  ⟨h.le, h.le_byteLength, h.inside, h.ordered⟩

/-- A node around trees that are laid out over a stretch is laid out over it too. -/
theorem Laid.node {name text : String} {children : List ParseTree}
    (h : Laid input i j children) : Laid input i j [⟨some name, text, i, j, children⟩] where
  le := h.le
  le_byteLength := h.le_byteLength
  inside t ht := by
    obtain rfl := List.mem_singleton.mp ht
    exact ⟨Nat.le_refl i, Nat.le_refl j⟩
  ordered := List.pairwise_singleton _ _
  faithful t ht u hu := by
    obtain rfl := List.mem_singleton.mp ht
    rcases hu.cases_tail with rfl | ⟨child, hbelow, hchild⟩
    · exact ⟨h.wellPlaced, nofun⟩
    · exact h.faithful child hchild u hbelow

/-- All output is laid down in order, whatever the combinators are. -/
theorem layout_laid (program : Program) (input : List Char) :
    Layout program input (fun _ => True) (Laid input) where
  nothing hi := laid_nothing hi (Nat.le_refl _)
  leaf := laid_leaf
  append := Laid.append
  node := Laid.node
  skip _ _ _ := laid_nothing
  operand _ _ := trivial
  call _ _ := trivial

end ParseTree

namespace Interpreter

variable {i : Interpreter} {rule : RuleId} {input : List Char}

/-- A call that fails leaves the root empty and the cursor at the start of the input. -/
theorem outcome_of_failed (h : (i.outcome rule input).verdict = .failed) :
    (i.outcome rule input).node = .empty ∧ (i.outcome rule input).state.position = 0 := by
  obtain ⟨effect, heffect, hrewinds⟩ :=
    (atomic_call (i.setting input) i.program i.limit rule).effect .initial
  have houtcome : i.outcome rule input = effect.on .empty := heffect .empty
  rw [houtcome] at h ⊢
  cases effect with
  | halted => cases h
  | matched => cases h
  | failed t => exact ⟨rfl, hrewinds⟩

/-- What the call of a rule at the start of an input has put into the empty node, if it does not
halt, is laid down between there and the cursor. -/
theorem outcome_laid (hrule : (i.program.rule? rule).isSome = true)
    (hends : ∀ error, (i.outcome rule input).verdict ≠ .halted error) : ∃ text children,
      (i.outcome rule input).node = ParseTree.empty.append text children ∧
        ParseTree.Laid input 0 (i.outcome rule input).state.position children := by
  cases hverdict : (i.outcome rule input).verdict with
  | halted error => exact absurd hverdict (hends error)
  | matched =>
    have hlays := (compositional_laysDown
      (ParseTree.layout_laid i.program input) (e := i.setting input)).call_run i.limit hrule
    exact hlays.2 trivial .initial .empty (isBoundary_zero input) hverdict
  | failed =>
    obtain ⟨hnode, hstart⟩ := outcome_of_failed hverdict
    rw [hstart]
    exact ⟨"", [], hnode, ParseTree.laid_nothing (isBoundary_zero input) (Nat.le_refl 0)⟩

/-- The root of every parse that returns a result is well placed, and every node below it is well
placed and holds the text of its place if it is a leaf. -/
theorem parse_tree_faithful {parse : Parse} {events : List Event}
    (hrule : (i.program.rule? rule).isSome = true)
    (hparse : i.parseFrom rule input = .ok (parse, events)) :
    parse.root.WellPlaced input ∧ ∀ t : ParseTree, t.Below parse.root → t.Faithful input := by
  obtain ⟨hends, hroot, _⟩ := root_of_parseFrom hparse
  obtain ⟨text, children, hnode, hlaid⟩ := outcome_laid hrule hends
  rw [hroot, hnode]
  refine ⟨hlaid.wellPlaced, fun t ht => ?_⟩
  obtain ⟨child, hbelow, hchild⟩ := Relation.TransGen.tail'_iff.mp ht
  exact hlaid.faithful child hchild t hbelow

/-- Words of an `a` and any number of `b`, with commas behind some of them. The rule of the words is
not captured, and a word without a comma is read twice. -/
def wordList : Interpreter where
  program :=
    ⟨[⟨"List", .repetition 0 none
        (.choice (.sequence (.call ⟨1⟩) (.call ⟨2⟩)) (.call ⟨1⟩)), true⟩,
      ⟨"word", .sequence (.literal "a") (.repetition 0 none (.literal "b")), false⟩,
      ⟨"Comma", .errorName "comma" false (.literal ","), true⟩], ⟨0⟩, by decide⟩
  patterns := .empty
  limit := 8
  compiled := rfl

/-- The tree of two words has a root, a node for the list, one for the comma and four leaves, and
all of them are in place. -/
theorem wordList_tree_faithful : (wordList.program.rule? ⟨0⟩).isSome = true ∧
    ∃ parse events, wordList.parseFrom ⟨0⟩ "ab,a".toList = .ok (parse, events) ∧
      parse.success = true ∧ parse.root.size = 7 ∧ parse.root.WellPlaced "ab,a".toList ∧
      ∀ t : ParseTree, t.Below parse.root → t.Faithful "ab,a".toList := by
  have hrule : (wordList.program.rule? ⟨0⟩).isSome = true := rfl
  have hruns : (wordList.parseFrom ⟨0⟩ "ab,a".toList).toOption.map
      (fun r => (r.1.success, r.1.root.size)) = some (true, 7) := by decide +kernel
  refine ⟨hrule, ?_⟩
  cases hparse : wordList.parseFrom ⟨0⟩ "ab,a".toList with
  | error error =>
    rw [hparse] at hruns
    cases hruns
  | ok result =>
    obtain ⟨parse, events⟩ := result
    rw [hparse] at hruns
    obtain ⟨hsuccess, hsize⟩ := Prod.mk.inj (Option.some.inj hruns)
    obtain ⟨hroot, hbelow⟩ := parse_tree_faithful hrule hparse
    exact ⟨parse, events, rfl, hsuccess, hsize, hroot, hbelow⟩

end Interpreter

end Peg
