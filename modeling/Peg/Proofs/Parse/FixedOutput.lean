import Peg.Proofs.Parse.Answers
import Peg.Proofs.Parse.Atomicity

/-!
# Combinators with fixed output

A combinator without branches, repetitions and patterns among the parts that it keeps can only
contribute one output: it is laid down by the combinator and the rules that it calls, whatever the
input is. Every match yields a derivation of that output, and a combinator has at most one.
-/

namespace Peg

open Peg.Text

namespace ParseTree

mutual

/-- The tree without the places of its nodes. -/
def unplaced : ParseTree → ParseTree
  | ⟨rule, text, _, _, children⟩ => ⟨rule, text, 0, 0, unplacedAll children⟩

/-- The trees without the places of their nodes. -/
def unplacedAll : List ParseTree → List ParseTree
  | [] => []
  | t :: ts => t.unplaced :: unplacedAll ts

end

/-- Places are taken away from trees one by one. -/
theorem unplacedAll_append (ts us : List ParseTree) :
    unplacedAll (ts ++ us) = unplacedAll ts ++ unplacedAll us := by
  induction ts with
  | nil => rfl
  | cons t ts ih => simp only [List.cons_append, unplacedAll, ih]

end ParseTree

namespace Program

/-- The text that a combinator consumes whenever it matches. -/
inductive Consumes (program : Program) : Combinator → List Char → Prop where
  | literal {text : String} : program.Consumes (.literal text) text.toList
  | sequence {left right : Combinator} {front back : List Char} : program.Consumes left front →
      program.Consumes right back → program.Consumes (.sequence left right) (front ++ back)
  | not {body : Combinator} : program.Consumes (.not body) []
  | drop {body : Combinator} {text : List Char} : program.Consumes body text →
      program.Consumes (.drop body) text
  | terminal {decode : Bool} {body : Combinator} {text : List Char} :
      program.Consumes body text → program.Consumes (.terminal decode body) text
  | errorName {label : String} {promote : Bool} {body : Combinator} {text : List Char} :
      program.Consumes body text → program.Consumes (.errorName label promote body) text
  | call {id : RuleId} {rule : Rule} {text : List Char} : program.rule? id = some rule →
      program.Consumes rule.body text → program.Consumes (.call id) text

/-- The text and the nodes, without their places, that a combinator contributes whenever it
matches. -/
inductive Contributes (program : Program) : Combinator → String → List ParseTree → Prop where
  | literal {text : String} : program.Contributes (.literal text) "" [.leaf text 0 0]
  | sequence {left right : Combinator} {front back : String} {first second : List ParseTree} :
      program.Contributes left front first → program.Contributes right back second →
      program.Contributes (.sequence left right) (front ++ back) (first ++ second)
  | not {body : Combinator} : program.Contributes (.not body) "" []
  | drop {body : Combinator} : program.Contributes (.drop body) "" []
  | terminal {decode : Bool} {body : Combinator} {text : List Char} : program.Consumes body text →
      program.Contributes (.terminal decode body)
        (if decode then unescape (String.ofList text) else String.ofList text) []
  | errorName {label : String} {promote : Bool} {body : Combinator} {text : String}
      {children : List ParseTree} : program.Contributes body text children →
      program.Contributes (.errorName label promote body) text children
  | captured {id : RuleId} {rule : Rule} {text : String} {children : List ParseTree} :
      program.rule? id = some rule → rule.capture = true →
      program.Contributes rule.body text children →
      program.Contributes (.call id) "" [⟨some rule.name, text, 0, 0, children⟩]
  | spliced {id : RuleId} {rule : Rule} {text : String} {children : List ParseTree} :
      program.rule? id = some rule → rule.capture = false →
      program.Contributes rule.body text children → program.Contributes (.call id) text children

variable {program : Program} {c : Combinator}

/-- A combinator consumes the same text whenever it matches. -/
theorem Consumes.unique {text text' : List Char} (h : program.Consumes c text)
    (h' : program.Consumes c text') : text = text' := by
  induction h generalizing text' with
  | literal | not =>
    cases h'
    rfl
  | sequence _ _ ihl ihr =>
    cases h' with
    | sequence hleft hright => rw [ihl hleft, ihr hright]
  | drop _ ih =>
    cases h' with
    | drop hbody => exact ih hbody
  | terminal _ ih =>
    cases h' with
    | terminal hbody => exact ih hbody
  | errorName _ ih =>
    cases h' with
    | errorName hbody => exact ih hbody
  | call hrule _ ih =>
    cases h' with
    | call hrule' hbody =>
      obtain rfl := Option.some.inj (hrule.symm.trans hrule')
      exact ih hbody

/-- A combinator contributes the same text and the same nodes whenever it matches. -/
theorem Contributes.unique {text text' : String} {children children' : List ParseTree}
    (h : program.Contributes c text children) (h' : program.Contributes c text' children') :
    text = text' ∧ children = children' := by
  induction h generalizing text' children' with
  | literal | not | drop =>
    cases h'
    exact ⟨rfl, rfl⟩
  | sequence _ _ ihl ihr =>
    cases h' with
    | sequence hleft hright =>
      obtain ⟨rfl, rfl⟩ := ihl hleft
      obtain ⟨rfl, rfl⟩ := ihr hright
      exact ⟨rfl, rfl⟩
  | terminal hbody =>
    cases h' with
    | terminal hbody' =>
      obtain rfl := hbody.unique hbody'
      exact ⟨rfl, rfl⟩
  | errorName _ ih =>
    cases h' with
    | errorName hbody => exact ih hbody
  | captured hrule hcapture _ ih =>
    cases h' with
    | captured hrule' _ hbody =>
      obtain rfl := Option.some.inj (hrule.symm.trans hrule')
      obtain ⟨rfl, rfl⟩ := ih hbody
      exact ⟨rfl, rfl⟩
    | spliced hrule' hcapture' =>
      obtain rfl := Option.some.inj (hrule.symm.trans hrule')
      rw [hcapture] at hcapture'
      cases hcapture'
  | spliced hrule hcapture _ ih =>
    cases h' with
    | captured hrule' hcapture' =>
      obtain rfl := Option.some.inj (hrule.symm.trans hrule')
      rw [hcapture] at hcapture'
      cases hcapture'
    | spliced hrule' _ hbody =>
      obtain rfl := Option.some.inj (hrule.symm.trans hrule')
      exact ih hbody

/-- No combinator with the property branches, and its parts and the rules that it calls have the
property too. -/
structure Unbranched (program : Program) (P : Combinator → Prop) : Prop where
  pattern {source : String} {times : Nat} : ¬ P (.pattern source times)
  choice {left right : Combinator} : ¬ P (.choice left right)
  repetition {min : Nat} {max : Option Nat} {body : Combinator} : ¬ P (.repetition min max body)
  sequence {left right : Combinator} : P (.sequence left right) → P left ∧ P right
  errorName {label : String} {promote : Bool} {body : Combinator} :
    P (.errorName label promote body) → P body
  call {id : RuleId} {rule : Rule} : program.rule? id = some rule → P (.call id) → P rule.body

/-- Calm combinators do not branch where they keep something, and steady ones do not branch where
they consume something. Below a terminal everything that is consumed is kept. -/
structure Tame (program : Program) (calm steady : Combinator → Prop) : Prop where
  calm_unbranched : program.Unbranched calm
  steady_unbranched : program.Unbranched steady
  terminal {decode : Bool} {body : Combinator} : calm (.terminal decode body) → steady body
  steady_terminal {decode : Bool} {body : Combinator} : steady (.terminal decode body) →
    steady body
  steady_drop {body : Combinator} : steady (.drop body) → steady body

end Program

variable {program : Program} {patterns : PatternTable} {input : List Char} {c : Combinator}
  {calm steady : Combinator → Prop}

/-- Where a steady combinator matches, the input holds the text that the combinator consumes. -/
theorem Recognizes.consumes (htame : program.Tame calm steady) {i j : Nat}
    (h : Recognizes program patterns input c i (some j)) (hc : steady c)
    (hi : isBoundary input i = true) : program.Consumes c (slice input i j) := by
  generalize hr : some j = r at h
  induction h generalizing j with
  | literal hprefix =>
    cases hr
    rw [slice_eq_part hprefix]
    exact .literal
  | pattern => exact absurd hc htame.steady_unbranched.pattern
  | @sequence left right i k r hleft hright ihl ihr =>
    subst hr
    obtain ⟨hl, hr⟩ := htame.steady_unbranched.sequence hc
    obtain ⟨hik, hk⟩ := hleft.advances hi
    obtain ⟨hkj, hj⟩ := hright.advances hk
    rw [← slice_append hi hk hj hik hkj]
    exact .sequence (ihl hl hi rfl) (ihr hr hk rfl)
  | choiceLeft => exact absurd hc htame.steady_unbranched.choice
  | choiceRight => exact absurd hc htame.steady_unbranched.choice
  | repetition => exact absurd hc htame.steady_unbranched.repetition
  | @not body i =>
    cases hr
    have hempty : slice input i (i + byteLength []) = [] := slice_eq_part List.nil_prefix
    rw [byteLength_nil, Nat.add_zero] at hempty
    rw [hempty]
    exact .not
  | drop _ ih => exact .drop (ih (htame.steady_drop hc) hi hr)
  | terminal _ ih => exact .terminal (ih (htame.steady_terminal hc) hi hr)
  | errorName _ ih => exact .errorName (ih (htame.steady_unbranched.errorName hc) hi hr)
  | call hrule _ ih => exact .call hrule (ih (htame.steady_unbranched.call hrule hc) hi hr)
  | literalFails => cases hr
  | sequenceFails => cases hr
  | repetitionFails => cases hr
  | notFails => cases hr

namespace Step

/-- What a match contributes, from any boundary of the input, is laid down by the combinator. -/
def Shows (program : Program) (input : List Char) (c : Combinator) (step : Step) : Prop :=
  ∀ (s : ParseState) (node : ParseTree), isBoundary input s.position = true →
    (step s node).verdict = .matched →
      ∃ text children, (step s node).node = node.append text children ∧
        program.Contributes c text (ParseTree.unplacedAll children)

/-- To halt contributes nothing. -/
theorem shows_halt (program : Program) (input : List Char) (c : Combinator) (error : ParseError) :
    (halt error).Shows program input c :=
  fun _ _ _ hmatched => nomatch hmatched

variable {e : Setting} {left right body : Combinator} {l r b : Step}

/-- A literal contributes what is laid down for it. -/
theorem shows_literal (program : Program) (e : Setting) (text : String) :
    (literal e text).Shows program e.input (.literal text) := by
  intro s node hs hmatched
  unfold literal at hmatched ⊢
  split at hmatched
  next hfound =>
    have hslice := slice_eq_part (List.isPrefixOf_iff_prefix.mp hfound)
    rw [if_pos hfound, accept, hslice, String.ofList_toList]
    exact ⟨"", [.leaf text s.position _], ParseTree.addChild_eq_append _ _, .literal⟩
  · cases hmatched

/-- A sequence contributes what its parts do, in their order. -/
theorem Shows.sequence
    (hfollows : l.Follows e.input (Recognizes program patterns e.input left))
    (hleft : l.Shows program e.input left) (hright : r.Shows program e.input right) :
    (Step.sequence l r).Shows program e.input (.sequence left right) := by
  intro s node hs hmatched
  simp only [Step.sequence] at hmatched ⊢
  split at hmatched
  · cases hmatched
  · cases hmatched
  next hfirst =>
    split at hmatched
    · cases hmatched
    · cases hmatched
    next hsecond =>
      have hboundary := ((hfollows.recognizes hs hfirst).advances hs).2
      obtain ⟨front, first, hnode, hfront⟩ := hleft s .empty hs hfirst
      obtain ⟨back, second, hnode', hback⟩ := hright _ _ hboundary hsecond
      rw [hnode] at hnode'
      refine ⟨front ++ back, first ++ second, ?_, ?_⟩
      · rw [ParseTree.splice_eq_append, hnode, hnode']
        simp [ParseTree.append, ParseTree.empty]
      · rw [ParseTree.unplacedAll_append]
        exact .sequence hfront hback

/-- A lookahead contributes nothing. -/
theorem shows_not (program : Program) (input : List Char) (body : Combinator) (b : Step) :
    (Step.not b).Shows program input (.not body) := by
  intro s node _ _
  refine ⟨"", [], ?_, .not⟩
  simp only [Step.not, ParseTree.append_empty]
  split <;> rfl

/-- A part without output contributes nothing. -/
theorem shows_drop (program : Program) (input : List Char) (body : Combinator) (b : Step) :
    (Step.drop b).Shows program input (.drop body) :=
  fun _ node _ _ => ⟨"", [], (ParseTree.append_empty node).symm, .drop⟩

/-- A terminal contributes the text that its steady body consumes. -/
theorem Shows.terminal (htame : program.Tame calm steady)
    (hfollows : b.Follows e.input (Recognizes program patterns e.input body))
    (hsteady : steady body) (decode : Bool) :
    (Step.terminal e decode b).Shows program e.input (.terminal decode body) := by
  intro s node hs hmatched
  simp only [Step.terminal] at hmatched ⊢
  split at hmatched
  · cases hmatched
  · cases hmatched
  next hbody =>
    have hconsumes := (hfollows.recognizes hs hbody).consumes htame hsteady hs
    exact ⟨_, [], ParseTree.addText_eq_append _ _, .terminal hconsumes⟩

/-- A label contributes what its body does. -/
theorem Shows.errorName (hbody : b.Shows program e.input body) (label : String)
    (promote : Bool) :
    (Step.errorName label promote b).Shows program e.input (.errorName label promote body) := by
  intro s node hs hmatched
  obtain ⟨text, children, hnode, hcontributes⟩ :=
    hbody { s with labels := ⟨label, promote, s.position⟩ :: s.labels } node hs hmatched
  exact ⟨text, children, hnode, .errorName hcontributes⟩

/-- A rule contributes its node if it is captured, and else what its body does. -/
theorem Shows.call {id : RuleId} {rule : Rule} (hrule : program.rule? id = some rule)
    (hbody : b.Shows program e.input rule.body) :
    (Step.call e rule.name rule.capture b).Shows program e.input (.call id) := by
  intro s node hs hmatched
  rcases Nat.lt_or_ge s.depth e.limit with hroom | hlimit
  · rw [call_of_lt hroom] at hmatched ⊢
    simp only at hmatched ⊢
    split at hmatched
    · cases hmatched
    · cases hmatched
    next hinside =>
      obtain ⟨text, children, hnode, hcontributes⟩ :=
        hbody (s.enterRule rule.name) (.ofRule rule.name s.position) hs hinside
      cases hcapture : rule.capture with
      | true =>
        let child := { (ParseTree.ofRule rule.name s.position).append text children with
          stop := (b (s.enterRule rule.name) (.ofRule rule.name s.position)).state.position }
        have hchild : ParseTree.unplacedAll [child] =
            [⟨some rule.name, text, 0, 0, ParseTree.unplacedAll children⟩] := by
          simp [child, ParseTree.unplacedAll, ParseTree.unplaced, ParseTree.append,
            ParseTree.ofRule]
        refine ⟨"", [child], ?_, hchild ▸ .captured hrule hcapture hcontributes⟩
        rw [hnode]
        exact ParseTree.addChild_eq_append node child
      | false =>
        refine ⟨text, children, ?_, .spliced hrule hcapture hcontributes⟩
        rw [hnode]
        simp [ParseTree.splice, ParseTree.append, ParseTree.ofRule]
  · rw [call_of_le hlimit] at hmatched
    cases hmatched

end Step

namespace Interpreter

/-- What a calm combinator contributes is laid down by it, in every run. -/
theorem compositional_shows (htame : program.Tame calm steady) (e : Setting) :
    Compositional e program fun c step =>
      step.Follows e.input (Recognizes program e.patterns e.input c) ∧
        (calm c → step.Shows program e.input c) where
  literal text := ⟨Step.follows_literal text, fun _ => Step.shows_literal program e text⟩
  pattern hid := ⟨Step.follows_pattern hid, fun hc => absurd hc htame.calm_unbranched.pattern⟩
  uncompiled _ := ⟨Step.follows_halt _ _ _, fun _ => Step.shows_halt _ _ _ _⟩
  sequence hleft hright := ⟨hleft.1.sequence hright.1, fun hc =>
    have hparts := htame.calm_unbranched.sequence hc
    (hleft.2 hparts.1).sequence hleft.1 (hright.2 hparts.2)⟩
  choice hleft hright :=
    ⟨hleft.1.choice hright.1, fun hc => absurd hc htame.calm_unbranched.choice⟩
  repetition min max _ _ hbody :=
    ⟨hbody.1.repetition min max, fun hc => absurd hc htame.calm_unbranched.repetition⟩
  not hbody := ⟨hbody.1.not, fun _ => Step.shows_not _ _ _ _⟩
  drop hbody := ⟨hbody.1.drop, fun _ => Step.shows_drop _ _ _ _⟩
  terminal decode _ _ hbody := ⟨hbody.1.terminal decode, fun hc =>
    Step.Shows.terminal htame hbody.1 (htame.terminal hc) decode⟩
  errorName label promote _ _ hbody := ⟨hbody.1.errorName label promote, fun hc =>
    (hbody.2 (htame.calm_unbranched.errorName hc)).errorName label promote⟩
  call hrule hbody := ⟨hbody.1.call hrule, fun hc =>
    (hbody.2 (htame.calm_unbranched.call hrule hc)).call hrule⟩
  exhausted _ := ⟨Step.follows_halt _ _ _, fun _ => Step.shows_halt _ _ _ _⟩

/-- Two runs of a calm combinator that match contribute the same, however the inputs and the states
differ in which they start. -/
theorem same_output_of_calm (htame : program.Tame calm steady) (hc : calm c)
    (hresolves : program.Resolves c) {e e' : Setting} {budget budget' : Nat}
    {s s' : ParseState} {node node' : ParseTree} (hs : isBoundary e.input s.position = true)
    (hs' : isBoundary e'.input s'.position = true)
    (hmatched : (eval e (call e program budget) c s node).verdict = .matched)
    (hmatched' : (eval e' (call e' program budget') c s' node').verdict = .matched) :
    ∃ text children children',
      (eval e (call e program budget) c s node).node = node.append text children ∧
      (eval e' (call e' program budget') c s' node').node = node'.append text children' ∧
      ParseTree.unplacedAll children = ParseTree.unplacedAll children' := by
  have hshows := ((compositional_shows htame e).eval_run budget hresolves).2 hc
  have hshows' := ((compositional_shows htame e').eval_run budget' hresolves).2 hc
  obtain ⟨text, children, hnode, hcontributes⟩ := hshows s node hs hmatched
  obtain ⟨text', children', hnode', hcontributes'⟩ := hshows' s' node' hs' hmatched'
  obtain ⟨rfl, hsame⟩ := hcontributes.unique hcontributes'
  exact ⟨text, children, children', hnode, hnode', hsame⟩

end Interpreter

end Peg
