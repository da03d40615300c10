import Peg.Proofs.Parse.FixedOutput

/-!
# What a match lays down

Every match adds nodes to the node to which it contributes, and these nodes belong to the stretch of
input between the cursor before the match and behind it. A relation between stretches and nodes
holds of all matches if it holds of leaves and is kept by the ways in which larger output is made of
smaller output.
-/

namespace Peg

open Peg.Text

namespace ParseTree

/-- To take over a node that was collected apart is to take over what has been put into it. -/
theorem splice_append_empty (t : ParseTree) (text : String) (children : List ParseTree) :
    t.splice (empty.append text children) = t.append text children := by
  simp [splice, append, empty]

/-- Text and nodes are put behind a node one after the other. -/
theorem append_append (t : ParseTree) (text text' : String) (children children' : List ParseTree) :
    (t.append text children).append text' children' =
      t.append (text ++ text') (children ++ children') := by
  simp [append, String.append_assoc]

end ParseTree

/-- `P i j ts` is to say that the nodes `ts` are fit for the input from `i` to `j`. It is kept
wherever output is put together, at least as far as `kept` combinators do that. -/
structure Layout (program : Program) (input : List Char) (kept : Combinator → Prop)
    (P : Nat → Nat → List ParseTree → Prop) : Prop where
  nothing {i : Nat} : isBoundary input i = true → P i i []
  leaf {i j : Nat} : isBoundary input i = true → isBoundary input j = true → i ≤ j →
    P i j [.leaf (String.ofList (slice input i j)) i j]
  append {i j k : Nat} {front back : List ParseTree} : P i j front → P j k back →
    P i k (front ++ back)
  node {i j : Nat} {name text : String} {children : List ParseTree} : P i j children →
    P i j [⟨some name, text, i, j, children⟩]
  /-- What goes over input without laying down anything for it. -/
  skip {c body : Combinator} {i j : Nat} : kept c →
    (c = .drop body ∨ ∃ decode, c = .terminal decode body) → isBoundary input i = true →
    isBoundary input j = true → i ≤ j → P i j []
  operand {c d : Combinator} : kept c → d ∈ c.operands → kept d
  call {id : RuleId} {rule : Rule} : program.rule? id = some rule → kept (.call id) →
    kept rule.body

namespace Step

/-- Every match adds nodes to its node that are fit for the input that it has consumed. -/
def LaysDown (input : List Char) (P : Nat → Nat → List ParseTree → Prop) (step : Step) : Prop :=
  ∀ (s : ParseState) (node : ParseTree), isBoundary input s.position = true →
    (step s node).verdict = .matched → ∃ text children,
      (step s node).node = node.append text children ∧
        P s.position (step s node).state.position children

variable {program : Program} {e : Setting} {kept : Combinator → Prop}
  {P : Nat → Nat → List ParseTree → Prop} {left right body : Combinator} {l r b : Step}

/-- To halt puts no output together. -/
theorem laysDown_halt (input : List Char) (P : Nat → Nat → List ParseTree → Prop)
    (error : ParseError) : (halt error).LaysDown input P :=
  fun _ _ _ hmatched => nomatch hmatched

/-- Accepted input is put behind the node as a leaf that is fit for it. -/
theorem laysDown_accept (h : Layout program e.input kept P) {s : ParseState} {stop : Nat}
    (hs : isBoundary e.input s.position = true) (hstop : isBoundary e.input stop = true)
    (hle : s.position ≤ stop) (node : ParseTree) : ∃ text children,
      (accept e stop s node).node = node.append text children ∧
        P s.position (accept e stop s node).state.position children :=
  ⟨"", [.leaf (String.ofList (slice e.input s.position stop)) s.position stop],
    ParseTree.addChild_eq_append _ _, h.leaf hs hstop hle⟩

/-- A literal adds nodes that are fit for its text. -/
theorem laysDown_literal (h : Layout program e.input kept P) (text : String) :
    (literal e text).LaysDown e.input P := by
  intro s node hs hmatched
  unfold literal at hmatched ⊢
  split at hmatched
  next hfound =>
    obtain ⟨rest, hrest⟩ := List.isPrefixOf_iff_prefix.mp hfound
    rw [if_pos hfound]
    exact laysDown_accept h hs (isBoundary_add_byteLength hs hrest.symm) (Nat.le_add_right _ _) node
  · cases hmatched

/-- A pattern adds nodes that are fit for the text of its match. -/
theorem laysDown_pattern (h : Layout program e.input kept P) (id : Nat) :
    (pattern e id).LaysDown e.input P := by
  intro s node hs hmatched
  unfold pattern at hmatched ⊢
  split at hmatched
  · cases hmatched
  next stop hfound =>
    obtain ⟨entry, _, hentry⟩ := PatternTable.matchAt_eq_ok_iff.mp hfound
    obtain ⟨hle, hstop⟩ := Regex.Automaton.matchAt_stop hentry
    exact laysDown_accept h hs hstop hle node
  · cases hmatched

/-- A sequence adds fit nodes if its parts do, one behind the other. -/
theorem LaysDown.sequence (h : Layout program e.input kept P)
    (hfollows : l.Follows e.input (Recognizes program e.patterns e.input left))
    (hleft : l.LaysDown e.input P) (hright : r.LaysDown e.input P) :
    (Step.sequence l r).LaysDown e.input P := by
  intro s node hs hmatched
  simp only [Step.sequence] at hmatched ⊢
  split at hmatched
  · cases hmatched
  · cases hmatched
  next hfirst =>
    split at hmatched
    · cases hmatched
    · cases hmatched
    next hsecond =>
      have hbound := ((hfollows.recognizes hs hfirst).advances hs).2
      obtain ⟨front, first, hnode, hfront⟩ := hleft s .empty hs hfirst
      obtain ⟨back, second, hnode', hback⟩ := hright _ _ hbound hsecond
      rw [hnode] at hnode'
      refine ⟨front ++ back, first ++ second, ?_, h.append hfront hback⟩
      rw [hnode, hnode', ParseTree.append_append, ParseTree.splice_append_empty]

/-- A choice adds fit nodes if its alternatives do. -/
theorem LaysDown.choice (hleft : l.LaysDown e.input P) (hright : r.LaysDown e.input P) :
    (Step.choice l r).LaysDown e.input P := by
  intro s node hs hmatched
  simp only [Step.choice] at hmatched ⊢
  split at hmatched
  · cases hmatched
  next hfirst =>
    obtain ⟨text, children, hnode, hlaid⟩ := hleft s .empty hs hfirst
    refine ⟨text, children, ?_, hlaid⟩
    rw [hnode, ParseTree.splice_append_empty]
  next hfirst =>
    split at hmatched
    · cases hmatched
    next hsecond =>
      obtain ⟨text, children, hnode, hlaid⟩ :=
        hright ((l s .empty).state.restore s.position) .empty (by simpa using hs) hsecond
      rw [ParseState.position_restore] at hlaid
      refine ⟨text, children, ?_, hlaid⟩
      rw [hnode, ParseTree.splice_append_empty]
    · cases hmatched

/-- The turns of a loop lay down their nodes one behind the other. A turn that fails is undone. -/
theorem LaysDown.loop (h : Layout program e.input kept P)
    (hfollows : b.Follows e.input (Recognizes program e.patterns e.input body))
    (hbody : b.LaysDown e.input P) (max : Option Nat) (fuel count : Nat) {s : ParseState}
    (hs : isBoundary e.input s.position = true) (node : ParseTree)
    (hends : (Step.loop max b fuel count s node).error? = none) : ∃ text children,
      (Step.loop max b fuel count s node).node = node.append text children ∧
        P s.position (Step.loop max b fuel count s node).state.position children := by
  induction fuel generalizing count s node with
  | zero => exact ⟨"", [], (ParseTree.append_empty node).symm, h.nothing hs⟩
  | succ fuel ih =>
    cases hmore : mayContinue max count with
    | false =>
      rw [loop_of_full hmore]
      exact ⟨"", [], (ParseTree.append_empty node).symm, h.nothing hs⟩
    | true =>
      cases hverdict : (b s .empty).verdict with
      | halted error =>
        rw [loop_of_halted hmore hverdict] at hends
        cases hends
      | failed =>
        rw [loop_of_failed hmore hverdict]
        refine ⟨"", [], (ParseTree.append_empty node).symm, ?_⟩
        simpa using h.nothing hs
      | matched =>
        obtain ⟨text, children, hnode, hlaid⟩ := hbody s .empty hs hverdict
        by_cases hidle : (b s .empty).state.position = s.position
        · rw [loop_of_idle hmore hverdict hidle]
          refine ⟨text, children, ?_, hlaid⟩
          rw [hnode, ParseTree.splice_append_empty]
        · rw [loop_of_further hmore hverdict hidle] at hends ⊢
          have hbound := ((hfollows.recognizes hs hverdict).advances hs).2
          obtain ⟨text', children', hnode', hlaid'⟩ := ih (count + 1) hbound _ hends
          refine ⟨text ++ text', children ++ children', ?_, h.append hlaid hlaid'⟩
          rw [hnode', hnode, ParseTree.splice_append_empty, ParseTree.append_append]

/-- A repetition adds fit nodes if its turns do, one behind the other. -/
theorem LaysDown.repetition (h : Layout program e.input kept P)
    (hfollows : b.Follows e.input (Recognizes program e.patterns e.input body))
    (hbody : b.LaysDown e.input P) (min : Nat) (max : Option Nat) :
    (Step.repetition e min max b).LaysDown e.input P := by
  intro s node hs hmatched
  simp only [Step.repetition] at hmatched ⊢
  split at hmatched
  · cases hmatched
  next hends =>
    obtain ⟨text, children, hnode, hlaid⟩ := hbody.loop h hfollows max _ 0 hs .empty hends
    split at hmatched
    · cases hmatched
    next henough =>
      rw [if_neg henough]
      refine ⟨text, children, ?_, hlaid⟩
      rw [hnode, ParseTree.splice_append_empty]

/-- A lookahead consumes nothing. -/
theorem laysDown_not (h : Layout program e.input kept P) (b : Step) :
    (Step.not b).LaysDown e.input P := by
  intro s node hs hmatched
  simp only [Step.not] at hmatched ⊢
  split at hmatched
  · cases hmatched
  · cases hmatched
  · refine ⟨"", [], (ParseTree.append_empty node).symm, ?_⟩
    simpa using h.nothing hs

/-- A part without output adds what is fit for dropped input. -/
theorem laysDown_drop (h : Layout program e.input kept P) (hkept : kept (.drop body))
    (hfollows : b.Follows e.input (Recognizes program e.patterns e.input body)) :
    (Step.drop b).LaysDown e.input P := by
  intro s node hs hmatched
  have hverdict : (b s .empty).verdict = .matched := hmatched
  obtain ⟨hle, hstop⟩ := (hfollows.recognizes hs hverdict).advances hs
  exact ⟨"", [], (ParseTree.append_empty node).symm, h.skip hkept (Or.inl rfl) hs hstop hle⟩

/-- A terminal adds a leaf that is fit for all of its input. -/
theorem laysDown_terminal (h : Layout program e.input kept P) {decode : Bool}
    (hkept : kept (.terminal decode body))
    (hfollows : b.Follows e.input (Recognizes program e.patterns e.input body)) :
    (Step.terminal e decode b).LaysDown e.input P := by
  intro s node hs hmatched
  simp only [Step.terminal] at hmatched ⊢
  split at hmatched
  · cases hmatched
  · cases hmatched
  next hverdict =>
    obtain ⟨hle, hstop⟩ := (hfollows.recognizes hs hverdict).advances hs
    exact ⟨_, [], ParseTree.addText_eq_append _ _, h.skip hkept (Or.inr ⟨_, rfl⟩) hs hstop hle⟩

/-- A label adds no nodes of its own. -/
theorem LaysDown.errorName (hbody : b.LaysDown e.input P) (label : String) (promote : Bool) :
    (Step.errorName label promote b).LaysDown e.input P :=
  fun s node hs hmatched =>
    hbody { s with labels := ⟨label, promote, s.position⟩ :: s.labels } node hs hmatched

/-- A captured rule puts a node around the output of its body; any other rule hands it on. -/
theorem LaysDown.call (h : Layout program e.input kept P) (hbody : b.LaysDown e.input P)
    (name : String) (capture : Bool) : (Step.call e name capture b).LaysDown e.input P := by
  intro s node hs hmatched
  rcases Nat.lt_or_ge s.depth e.limit with hroom | hlimit
  · rw [call_of_lt hroom] at hmatched ⊢
    simp only at hmatched ⊢
    split at hmatched
    · cases hmatched
    · cases hmatched
    next hinside =>
      obtain ⟨text, children, hnode, hlaid⟩ :=
        hbody (s.enterRule name) (.ofRule name s.position) hs hinside
      cases capture with
      | true =>
        refine ⟨"", _, ParseTree.addChild_eq_append _ _, ?_⟩
        rw [hnode]
        exact h.node hlaid
      | false =>
        refine ⟨text, children, ?_, hlaid⟩
        rw [hnode]
        simp [ParseTree.splice, ParseTree.append, ParseTree.ofRule]
  · rw [call_of_le hlimit] at hmatched
    cases hmatched

end Step

namespace Interpreter

variable {program : Program} {e : Setting} {kept : Combinator → Prop}
  {P : Nat → Nat → List ParseTree → Prop}

/-- In every run, the matches of kept combinators lay down nodes that are fit for the input that
they consume. -/
theorem compositional_laysDown (h : Layout program e.input kept P) :
    Compositional e program fun c step =>
      step.Follows e.input (Recognizes program e.patterns e.input c) ∧
        (kept c → step.LaysDown e.input P) where
  literal text := ⟨Step.follows_literal text, fun _ => Step.laysDown_literal h text⟩
  pattern hid := ⟨Step.follows_pattern hid, fun _ => Step.laysDown_pattern h _⟩
  uncompiled _ := ⟨Step.follows_halt _ _ _, fun _ => Step.laysDown_halt _ _ _⟩
  sequence hleft hright := ⟨hleft.1.sequence hright.1, fun hc =>
    (hleft.2 (h.operand hc (.head _))).sequence h hleft.1
      (hright.2 (h.operand hc (.tail _ (.head _))))⟩
  choice hleft hright := ⟨hleft.1.choice hright.1, fun hc =>
    (hleft.2 (h.operand hc (.head _))).choice (hright.2 (h.operand hc (.tail _ (.head _))))⟩
  repetition min max _ _ hbody := ⟨hbody.1.repetition min max, fun hc =>
    (hbody.2 (h.operand hc (.head _))).repetition h hbody.1 min max⟩
  not hbody := ⟨hbody.1.not, fun _ => Step.laysDown_not h _⟩
  drop hbody := ⟨hbody.1.drop, fun hc => Step.laysDown_drop h hc hbody.1⟩
  terminal decode _ _ hbody :=
    ⟨hbody.1.terminal decode, fun hc => Step.laysDown_terminal h hc hbody.1⟩
  errorName label promote _ _ hbody := ⟨hbody.1.errorName label promote, fun hc =>
    (hbody.2 (h.operand hc (.head _))).errorName label promote⟩
  call hrule hbody := ⟨hbody.1.call hrule, fun hc => (hbody.2 (h.call hrule hc)).call h _ _⟩
  exhausted _ := ⟨Step.follows_halt _ _ _, fun _ => Step.laysDown_halt _ _ _⟩

variable {i : Interpreter} {rule : RuleId} {input : List Char} {parse : Parse}
  {events : List Event}

/-- The root of a result holds what the entry step has put into the empty node, and it ends where
this step has left the cursor, which is the end of the input if the parse succeeds. -/
theorem root_of_runStep {entry : Step} {s t : ParseState}
    (h : runStep e entry s = (.ok parse, t)) :
    (∀ error, (entry s.restart .empty).verdict ≠ .halted error) ∧
      parse.root = { (entry s.restart .empty).node with
        stop := (entry s.restart .empty).state.position } ∧
      (parse.success = true → parse.root.stop = byteLength e.input) := by
  simp only [runStep] at h
  cases hverdict : (entry s.restart .empty).verdict with
  | halted error =>
    rw [hverdict] at h
    cases h
  | failed =>
    rw [hverdict] at h
    cases h
    exact ⟨by simp, rfl, by simp⟩
  | matched =>
    simp only [hverdict] at h
    split at h
    next hall =>
      cases h
      exact ⟨by simp, rfl, fun _ => hall⟩
    · cases h
      exact ⟨by simp, rfl, by simp⟩

/-- A parse returns a result if the call with which it begins does not halt, and the root of the
result is what this call has left. -/
theorem root_of_parseFrom (h : i.parseFrom rule input = .ok (parse, events)) :
    (∀ error, (i.outcome rule input).verdict ≠ .halted error) ∧
      parse.root =
        { (i.outcome rule input).node with stop := (i.outcome rule input).state.position } ∧
      (parse.success = true → parse.root.stop = byteLength input) := by
  obtain ⟨s, hrun, _⟩ := parseFrom_eq_ok h
  exact root_of_runStep hrun

end Interpreter

end Peg
