import Peg.Proofs.Parse.Frame
import Peg.Proofs.Parse.Recognition

/-!
# Runs answer what combinators recognise

Whatever a run answers is recognised, and whatever is recognised is answered once enough nested
calls are allowed. The bound on the turns of a loop is no bound in effect: every turn but the last
one moves the cursor, and the cursor never leaves the input.
-/

namespace Peg

open Peg.Text

/-- The step has answered at offset `i`: it matched up to an offset, or it failed and the cursor is
back where it was. -/
def Outcome.Answers (o : Outcome) (i : Nat) : Option Nat → Prop
  | some j => o.verdict = .matched ∧ o.state.position = j
  | none => o.verdict = .failed ∧ o.state.position = i

namespace Step

/-- From each boundary of the input, the step halts or gives an answer that `R` admits. -/
def Follows (input : List Char) (R : Nat → Option Nat → Prop) (step : Step) : Prop :=
  ∀ (s : ParseState) (node : ParseTree), isBoundary input s.position = true →
    (∃ error, (step s node).verdict = .halted error) ∨
      ∃ r, (step s node).Answers s.position r ∧ R s.position r

/-- A match is recognised up to where it leaves the cursor. -/
theorem Follows.recognizes {input : List Char} {R : Nat → Option Nat → Prop} {step : Step}
    (h : step.Follows input R) {s : ParseState} {node : ParseTree}
    (hs : isBoundary input s.position = true) (hmatched : (step s node).verdict = .matched) :
    R s.position (some (step s node).state.position) := by
  rcases h s node hs with ⟨error, hhalt⟩ | ⟨r, hanswer, hrec⟩
  · rw [hhalt] at hmatched
    cases hmatched
  · cases r with
    | none =>
      rw [hanswer.1] at hmatched
      cases hmatched
    | some j =>
      obtain ⟨_, rfl⟩ := hanswer
      exact hrec

variable {program : Program} {patterns : PatternTable} {e : Setting}

/-- To halt is no answer. -/
theorem follows_halt (input : List Char) (R : Nat → Option Nat → Prop) (error : ParseError) :
    (halt error).Follows input R :=
  fun _ _ _ => Or.inl ⟨error, rfl⟩

/-- A literal answers what recognition has for it. -/
theorem follows_literal (text : String) :
    (literal e text).Follows e.input (Recognizes program patterns e.input (.literal text)) := by
  intro s node hs
  right
  cases hfound : text.toList.isPrefixOf (dropBytes e.input s.position) with
  | true =>
    have hprefix := List.isPrefixOf_iff_prefix.mp hfound
    refine ⟨some (s.position + byteLength text.toList), ?_, .literal hprefix⟩
    simp [literal, hfound, Outcome.Answers, accept]
  | false =>
    have hprefix : ¬ text.toList <+: dropBytes e.input s.position := by
      rw [← List.isPrefixOf_iff_prefix, hfound]
      simp
    refine ⟨none, ?_, .literalFails hprefix⟩
    simp [literal, hfound, Outcome.Answers, reject]

/-- A pattern answers what recognition has for it. -/
theorem follows_pattern {source : String} {times id : Nat}
    (hid : e.patterns.indexOf? source times = some id) :
    (pattern e id).Follows e.input
      (Recognizes program e.patterns e.input (.pattern source times)) := by
  intro s node hs
  cases hmatch : e.patterns.matchAt id e.input s.position with
  | error error => exact Or.inl ⟨error, by simp [pattern, hmatch]⟩
  | ok r =>
    right
    refine ⟨r, ?_, .pattern hid hmatch⟩
    cases r with
    | none => simp [pattern, hmatch, Outcome.Answers, reject]
    | some stop => simp [pattern, hmatch, Outcome.Answers, accept]

variable {left right body : Combinator} {l r b : Step}

/-- A sequence answers what recognition has for it if its parts do. -/
theorem Follows.sequence
    (hleft : l.Follows e.input (Recognizes program patterns e.input left))
    (hright : r.Follows e.input (Recognizes program patterns e.input right)) :
    (Step.sequence l r).Follows e.input
      (Recognizes program patterns e.input (.sequence left right)) := by
  intro s node hs
  rcases hleft s .empty hs with ⟨error, hhalt⟩ | ⟨found, hanswer, hrec⟩
  · exact Or.inl ⟨error, by simp [Step.sequence, hhalt]⟩
  cases found with
  | none =>
    obtain ⟨hfailed, _⟩ := hanswer
    exact Or.inr ⟨none, by simp [Step.sequence, hfailed, Outcome.Answers], .sequenceFails hrec⟩
  | some j =>
    obtain ⟨hmatched, rfl⟩ := hanswer
    obtain ⟨_, hj⟩ := hrec.advances hs
    rcases hright _ (l s .empty).node hj with ⟨error, hhalt⟩ | ⟨found, hanswer, hrec'⟩
    · exact Or.inl ⟨error, by simp [Step.sequence, hmatched, hhalt]⟩
    refine Or.inr ⟨found, ?_, .sequence hrec hrec'⟩
    cases found with
    | none => simp [Step.sequence, hmatched, hanswer.1, Outcome.Answers]
    | some k => simp [Step.sequence, hmatched, hanswer.1, hanswer.2, Outcome.Answers]

/-- A choice answers what recognition has for it if its alternatives do. -/
theorem Follows.choice
    (hleft : l.Follows e.input (Recognizes program patterns e.input left))
    (hright : r.Follows e.input (Recognizes program patterns e.input right)) :
    (Step.choice l r).Follows e.input
      (Recognizes program patterns e.input (.choice left right)) := by
  intro s node hs
  rcases hleft s .empty hs with ⟨error, hhalt⟩ | ⟨found, hanswer, hrec⟩
  · exact Or.inl ⟨error, by simp [Step.choice, hhalt]⟩
  cases found with
  | some j =>
    obtain ⟨hmatched, hj⟩ := hanswer
    exact Or.inr ⟨some j, by simp [Step.choice, hmatched, hj, Outcome.Answers], .choiceLeft hrec⟩
  | none =>
    obtain ⟨hfailed, _⟩ := hanswer
    have hback : isBoundary e.input ((l s .empty).state.restore s.position).position = true := by
      simpa using hs
    rcases hright _ .empty hback with ⟨error, hhalt⟩ | ⟨found, hanswer, hrec'⟩
    · exact Or.inl ⟨error, by simp [Step.choice, hfailed, hhalt]⟩
    rw [ParseState.position_restore] at hanswer hrec'
    refine Or.inr ⟨found, ?_, .choiceRight hrec hrec'⟩
    cases found with
    | none => simp [Step.choice, hfailed, hanswer.1, Outcome.Answers]
    | some k => simp [Step.choice, hfailed, hanswer.1, hanswer.2, Outcome.Answers]

/-- Unless its body halts, a loop with more turns left than there are bytes ahead of it runs through
the turns that its body allows. -/
theorem Follows.loop {input : List Char} {R : Nat → Option Nat → Prop}
    (hbody : b.Follows input R) (hR : Advances input R) (max : Option Nat) {fuel : Nat}
    (count : Nat) {s : ParseState} (node : ParseTree) (hs : isBoundary input s.position = true)
    (hfuel : byteLength input - s.position < fuel) :
    (∃ error, (Step.loop max b fuel count s node).error? = some error) ∨
      (Step.loop max b fuel count s node).error? = none ∧
        Turns R max count s.position (Step.loop max b fuel count s node).count
          (Step.loop max b fuel count s node).state.position := by
  induction fuel generalizing count s node with
  | zero => omega
  | succ fuel ih =>
    cases hmore : mayContinue max count with
    | false =>
      rw [loop_of_full hmore]
      exact Or.inr ⟨rfl, .full (mayContinue_eq_false_iff.mp hmore)⟩
    | true =>
      have hmax := mayContinue_eq_true_iff.mp hmore
      rcases hbody s .empty hs with ⟨error, hhalt⟩ | ⟨found, hanswer, hrec⟩
      · rw [loop_of_halted hmore hhalt]
        exact Or.inl ⟨error, rfl⟩
      cases found with
      | none =>
        rw [loop_of_failed hmore hanswer.1]
        exact Or.inr ⟨rfl, by simpa using Turns.failed hmax hrec⟩
      | some j =>
        obtain ⟨hmatched, rfl⟩ := hanswer
        obtain ⟨hle, hbound⟩ := hR hrec hs
        by_cases hidle : (b s .empty).state.position = s.position
        · rw [hidle] at hrec
          rw [loop_of_idle hmore hmatched hidle]
          exact Or.inr ⟨rfl, by simpa [hidle] using Turns.idle hmax hrec⟩
        · have hlt := le_byteLength_of_isBoundary hbound
          rw [loop_of_further hmore hmatched hidle]
          rcases ih (count + 1) (node.splice (b s .empty).node) hbound (by omega) with
            hhalt | ⟨hnone, hturns⟩
          · exact Or.inl hhalt
          · exact Or.inr ⟨hnone, .further hmax hrec hidle hturns⟩

/-- A repetition answers what recognition has for it if its body does. -/
theorem Follows.repetition
    (hbody : b.Follows e.input (Recognizes program patterns e.input body)) (min : Nat)
    (max : Option Nat) :
    (Step.repetition e min max b).Follows e.input
      (Recognizes program patterns e.input (.repetition min max body)) := by
  intro s node hs
  rcases hbody.loop Recognizes.advances max 0 .empty hs (Nat.lt_succ_self _) with
    ⟨error, hhalt⟩ | ⟨hnone, hturns⟩
  · exact Or.inl ⟨error, by simp [Step.repetition, hhalt]⟩
  by_cases hmin : (Step.loop max b (byteLength e.input - s.position + 1) 0 s .empty).count < min
  · refine Or.inr ⟨none, ?_, .repetitionFails id hturns hmin⟩
    simp [Step.repetition, hnone, hmin, Outcome.Answers]
  · refine Or.inr ⟨some _, ?_, .repetition id hturns (Nat.le_of_not_lt hmin)⟩
    simp [Step.repetition, hnone, hmin, Outcome.Answers]

/-- A lookahead answers what recognition has for it if its body does. -/
theorem Follows.not
    (hbody : b.Follows e.input (Recognizes program patterns e.input body)) :
    (Step.not b).Follows e.input (Recognizes program patterns e.input (.not body)) := by
  intro s node hs
  rcases hbody { s with suppress := s.suppress + 1 } .empty hs with
    ⟨error, hhalt⟩ | ⟨found, hanswer, hrec⟩
  · exact Or.inl ⟨error, by simp [Step.not, hhalt]⟩
  right
  cases found with
  | none => exact ⟨some s.position, by simp [Step.not, hanswer.1, Outcome.Answers], .not hrec⟩
  | some j => exact ⟨none, by simp [Step.not, hanswer.1, Outcome.Answers], .notFails hrec⟩

/-- A part without output answers what recognition has for it if its body does. -/
theorem Follows.drop
    (hbody : b.Follows e.input (Recognizes program patterns e.input body)) :
    (Step.drop b).Follows e.input (Recognizes program patterns e.input (.drop body)) := by
  intro s node hs
  rcases hbody s .empty hs with ⟨error, hhalt⟩ | ⟨found, hanswer, hrec⟩
  · exact Or.inl ⟨error, hhalt⟩
  · exact Or.inr ⟨found, hanswer, .drop hrec⟩

/-- A terminal answers what recognition has for it if its body does. -/
theorem Follows.terminal
    (hbody : b.Follows e.input (Recognizes program patterns e.input body)) (decode : Bool) :
    (Step.terminal e decode b).Follows e.input
      (Recognizes program patterns e.input (.terminal decode body)) := by
  intro s node hs
  rcases hbody s .empty hs with ⟨error, hhalt⟩ | ⟨found, hanswer, hrec⟩
  · exact Or.inl ⟨error, by simp [Step.terminal, hhalt]⟩
  refine Or.inr ⟨found, ?_, .terminal hrec⟩
  cases found with
  | none => simpa [Step.terminal, hanswer.1, Outcome.Answers] using hanswer.2
  | some j => simpa [Step.terminal, hanswer.1, Outcome.Answers] using hanswer.2

/-- A label answers what recognition has for it if its body does. -/
theorem Follows.errorName
    (hbody : b.Follows e.input (Recognizes program patterns e.input body)) (label : String)
    (promote : Bool) :
    (Step.errorName label promote b).Follows e.input
      (Recognizes program patterns e.input (.errorName label promote body)) := by
  intro s node hs
  rcases hbody { s with labels := ⟨label, promote, s.position⟩ :: s.labels } node hs with
    ⟨error, hhalt⟩ | ⟨found, hanswer, hrec⟩
  · exact Or.inl ⟨error, hhalt⟩
  refine Or.inr ⟨found, ?_, .errorName hrec⟩
  cases found with
  | none => exact hanswer
  | some j => exact hanswer

/-- A rule answers what recognition has for a call if its body does. -/
theorem Follows.call {id : RuleId} {rule : Rule} (hrule : program.rule? id = some rule)
    (hbody : b.Follows e.input (Recognizes program patterns e.input rule.body)) :
    (Step.call e rule.name rule.capture b).Follows e.input
      (Recognizes program patterns e.input (.call id)) := by
  intro s node hs
  rcases Nat.lt_or_ge s.depth e.limit with hroom | hlimit
  · rw [call_of_lt hroom]
    rcases hbody (s.enterRule rule.name) (.ofRule rule.name s.position) hs with
      ⟨error, hhalt⟩ | ⟨found, hanswer, hrec⟩
    · exact Or.inl ⟨error, by simp [hhalt]⟩
    refine Or.inr ⟨found, ?_, .call hrule hrec⟩
    cases found with
    | none => simp [hanswer.1, Outcome.Answers]
    | some j => simpa [hanswer.1, Outcome.Answers] using hanswer.2
  · rw [call_of_le hlimit]
    exact Or.inl ⟨_, rfl⟩

end Step

namespace Interpreter

/-- Every run answers what its combinator recognises, or halts. -/
theorem compositional_follows (e : Setting) (program : Program) :
    Compositional e program fun c step =>
      step.Follows e.input (Recognizes program e.patterns e.input c) where
  literal := Step.follows_literal
  pattern := Step.follows_pattern
  uncompiled _ := Step.follows_halt _ _ _
  sequence := Step.Follows.sequence
  choice := Step.Follows.choice
  repetition min max _ _ hbody := hbody.repetition min max
  not := Step.Follows.not
  drop := Step.Follows.drop
  terminal decode _ _ hbody := hbody.terminal decode
  errorName label promote _ _ hbody := hbody.errorName label promote
  call := Step.Follows.call
  exhausted _ := Step.follows_halt _ _ _

end Interpreter

end Peg
