import Peg.Proofs.Parse.Furthest
import Peg.Proofs.Parse.TreeSpans
import Peg.Proofs.Parse.Yields

/-!
# Trees without losses

Only drops and terminals consume input without a leaf for it. Where a program has neither of them,
the leaves of a tree tile the input that the parse has consumed, and the input can be read off from
them.
-/

namespace Peg

open Peg.Text

namespace Combinator

/-- No drop and no terminal occurs. -/
structure KeepsAll (c : Combinator) : Prop where
  drop : ∀ body, .drop body ∉ c.preorder
  terminal : ∀ decode body, .terminal decode body ∉ c.preorder

/-- If a combinator keeps all it reads, so do its operands. -/
theorem KeepsAll.operand {c d : Combinator} (h : c.KeepsAll) (hd : d ∈ c.operands) : d.KeepsAll :=
  ⟨fun body hbody => h.drop body (preorder_subset hd hbody),
    fun decode body hbody => h.terminal decode body (preorder_subset hd hbody)⟩

end Combinator

/-- No drop and no terminal occurs in the rules of a program. -/
def Program.KeepsAll (p : Program) : Prop :=
  ∀ rule ∈ p.rules, rule.body.KeepsAll

namespace ParseTree

mutual

/-- The leaves of a tree, from left to right. -/
def leaves : ParseTree → List ParseTree
  | ⟨none, text, start, stop, children⟩ => [⟨none, text, start, stop, children⟩]
  | ⟨some _, _, _, _, children⟩ => leavesOfAll children

/-- The leaves of several trees, from left to right. -/
def leavesOfAll : List ParseTree → List ParseTree
  | [] => []
  | t :: ts => t.leaves ++ leavesOfAll ts

end

/-- The leaves of two lists of trees are the leaves of the one, then those of the other. -/
theorem leavesOfAll_append (ts us : List ParseTree) :
    leavesOfAll (ts ++ us) = leavesOfAll ts ++ leavesOfAll us := by
  induction ts with
  | nil => rfl
  | cons t ts ih => simp only [List.cons_append, leavesOfAll, ih, List.append_assoc]

/-- The text of several nodes, one behind the other. -/
def textOfAll (ts : List ParseTree) : List Char :=
  ts.flatMap fun t => t.text.toList

/-- Nodes cover the input between two offsets: each starts where the one before it has ended, and
its text is what it spans. -/
inductive Tiles (input : List Char) : Nat → Nat → List ParseTree → Prop where
  | nil {i : Nat} : Tiles input i i []
  | cons {t : ParseTree} {ts : List ParseTree} {j : Nat} :
      t.matched? input = some t.text.toList → Tiles input t.stop j ts →
      Tiles input t.start j (t :: ts)

variable {input : List Char} {i j k : Nat} {ts us : List ParseTree}

/-- Two stretches of input that are tiled one after the other are tiled together. -/
theorem Tiles.append (hts : Tiles input i j ts) (hus : Tiles input j k us) :
    Tiles input i k (ts ++ us) := by
  induction hts with
  | nil => exact hus
  | cons hspan _ ih => exact .cons hspan (ih hus)

/-- The text of nodes that tile a stretch of input is that stretch. -/
theorem Tiles.slice?_eq (h : Tiles input i j ts) (hi : isBoundary input i = true) :
    slice? input i j = some (textOfAll ts) := by
  induction h with
  | nil => exact slice?_self hi
  | cons hspan _ ih =>
    obtain ⟨⟨_, _, hstop⟩, _⟩ := slice?_eq_some_iff.mp hspan
    exact slice?_append hspan (ih hstop)

/-- One leaf tiles the stretch of input it holds. -/
theorem tiles_leaf (hi : isBoundary input i = true) (hj : isBoundary input j = true)
    (hle : i ≤ j) : Tiles input i j [.leaf (String.ofList (slice input i j)) i j] := by
  have hspan : (leaf (String.ofList (slice input i j)) i j).matched? input =
      some (leaf (String.ofList (slice input i j)) i j).text.toList :=
    slice?_eq_some_iff.mpr ⟨⟨hle, hi, hj⟩, String.toList_ofList.symm⟩
  exact .cons hspan .nil

/-- In a program without drops and terminals, the leaves of all output tile the input. -/
theorem layout_tiles {program : Program} (h : program.KeepsAll) (input : List Char) :
    Layout program input Combinator.KeepsAll fun i j ts => Tiles input i j (leavesOfAll ts) where
  nothing _ := .nil
  leaf hi hj hle := tiles_leaf hi hj hle
  append hfront hback := by
    rw [leavesOfAll_append]
    exact hfront.append hback
  node hchildren := by simpa [leavesOfAll, leaves] using hchildren
  skip hkept hc _ _ _ := by
    rcases hc with rfl | ⟨decode, rfl⟩
    · exact absurd (Combinator.self_mem_preorder _) (hkept.drop _)
    · exact absurd (Combinator.self_mem_preorder _) (hkept.terminal decode _)
  operand := Combinator.KeepsAll.operand
  call hrule _ := h _ (List.mem_of_getElem? hrule)

end ParseTree

namespace Interpreter

variable {i : Interpreter} {rule : RuleId} {input : List Char}

/-- Where a rule matches at the start of an input, the leaves of its output tile the input up to
the cursor. -/
theorem outcome_tiles (hrule : (i.program.rule? rule).isSome = true) (hkeeps : i.program.KeepsAll)
    (hmatched : (i.outcome rule input).verdict = .matched) :
    ParseTree.Tiles input 0 (i.outcome rule input).state.position
      (ParseTree.leavesOfAll (i.outcome rule input).node.children) := by
  have hlays := (compositional_laysDown
    (ParseTree.layout_tiles hkeeps input) (e := i.setting input)).call_run i.limit hrule
  have hcall : Combinator.KeepsAll (.call rule) :=
    ⟨by simp [Combinator.preorder], by simp [Combinator.preorder]⟩
  obtain ⟨text, children, hnode, htiles⟩ :=
    hlays.2 hcall .initial .empty (isBoundary_zero input) hmatched
  have hchildren : (i.outcome rule input).node.children = children := congrArg _ hnode
  rw [hchildren]
  exact htiles

/-- When a rule of a program without drops and terminals matches, the leaves below the root of the
parse tile the input up to the end of the root, so their texts make up this input, all of it if the
parse succeeds. -/
theorem parse_lossless (hrule : (i.program.rule? rule).isSome = true)
    (hkeeps : i.program.KeepsAll) (hmatched : (i.outcome rule input).verdict = .matched) :
    ∃ parse events, i.parseFrom rule input = .ok (parse, events) ∧
      ParseTree.Tiles input 0 parse.root.stop (ParseTree.leavesOfAll parse.root.children) ∧
      slice? input 0 parse.root.stop =
        some (ParseTree.textOfAll (ParseTree.leavesOfAll parse.root.children)) ∧
      (parse.success = true →
        ParseTree.textOfAll (ParseTree.leavesOfAll parse.root.children) = input) := by
  have hanswers : (i.outcome rule input).Answers 0 (some (i.outcome rule input).state.position) :=
    ⟨hmatched, rfl⟩
  obtain ⟨_, parse, events, hparse, _⟩ := yields_of_answers hanswers
  obtain ⟨_, hroot, hall⟩ := root_of_parseFrom hparse
  have htiles : ParseTree.Tiles input 0 parse.root.stop
      (ParseTree.leavesOfAll parse.root.children) := by
    rw [hroot]
    exact outcome_tiles hrule hkeeps hmatched
  have htext := htiles.slice?_eq (isBoundary_zero input)
  refine ⟨parse, events, hparse, htiles, htext, fun hsuccess => ?_⟩
  rw [hall hsuccess, slice?_all] at htext
  exact (Option.some.inj htext).symm

/-- The list of words has no drops and no terminals, so all of a list can be read off from its tree:
both words and the comma between them, which is in a node of its own. -/
theorem wordList_lossless : (wordList.program.rule? ⟨0⟩).isSome = true ∧
    wordList.program.KeepsAll ∧ (wordList.outcome ⟨0⟩ "ab,a".toList).verdict = .matched ∧
    ∃ parse events, wordList.parseFrom ⟨0⟩ "ab,a".toList = .ok (parse, events) ∧
      ParseTree.Tiles "ab,a".toList 0 parse.root.stop
        (ParseTree.leavesOfAll parse.root.children) ∧
      ParseTree.textOfAll (ParseTree.leavesOfAll parse.root.children) = "ab,a".toList := by
  have hrule : (wordList.program.rule? ⟨0⟩).isSome = true := rfl
  have hkeeps : wordList.program.KeepsAll := by
    simp only [Program.KeepsAll, wordList, List.forall_mem_cons]
    refine ⟨⟨?_, ?_⟩, ⟨?_, ?_⟩, ⟨?_, ?_⟩, ?_⟩ <;> simp [Combinator.preorder]
  have hmatched : (wordList.outcome ⟨0⟩ "ab,a".toList).verdict = .matched := by decide +kernel
  have hsuccess : (wordList.parseFrom ⟨0⟩ "ab,a".toList).toOption.map (fun r => r.1.success) =
      some true := by decide +kernel
  obtain ⟨parse, events, hparse, htiles, _, htext⟩ := parse_lossless hrule hkeeps hmatched
  rw [hparse] at hsuccess
  exact ⟨hrule, hkeeps, hmatched, parse, events, hparse, htiles,
    htext (Option.some.inj hsuccess)⟩

end Interpreter

end Peg
