import Peg.Proofs.Parse.Atomicity

/-!
# Matches end at boundaries

A match that starts between two characters of the input ends between two characters. This holds of
any parser, also if rules or patterns are missing to which it refers.
-/

namespace Peg

open Peg.Text

namespace Step

/-- A match from a boundary of the input ends at a boundary. -/
def Lands (e : Setting) (step : Step) : Prop :=
  ∀ (s : ParseState) (node : ParseTree), isBoundary e.input s.position = true →
    (step s node).verdict = .matched → isBoundary e.input (step s node).state.position = true

variable {e : Setting} {left right body : Step}

/-- To halt is no match. -/
theorem lands_halt (error : ParseError) : (halt error).Lands e :=
  nofun

/-- The call of a rule that does not exist fails at once. -/
theorem lands_failed : Lands e fun s node => ⟨.failed, s, node⟩ :=
  nofun

/-- A literal that is next in the input ends at a boundary. -/
theorem lands_literal (text : String) : (literal e text).Lands e := by
  intro s node hs hmatched
  cases hfound : text.toList.isPrefixOf (dropBytes e.input s.position) with
  | false => simp [literal, hfound, reject] at hmatched
  | true =>
    obtain ⟨rest, hrest⟩ := List.isPrefixOf_iff_prefix.mp hfound
    simpa [literal, hfound, accept] using isBoundary_add_byteLength hs hrest.symm

/-- A pattern matches whole characters, so it ends at a boundary. -/
theorem lands_pattern (id : Nat) : (pattern e id).Lands e := by
  intro s node hs hmatched
  cases hmatch : e.patterns.matchAt id e.input s.position with
  | error error => simp [pattern, hmatch] at hmatched
  | ok found =>
    cases found with
    | none => simp [pattern, hmatch, reject] at hmatched
    | some stop =>
      obtain ⟨entry, _, hentry⟩ := PatternTable.matchAt_eq_ok_iff.mp hmatch
      simpa [pattern, hmatch, accept] using (Regex.Automaton.matchAt_stop hentry).2

/-- A match of a sequence ends where its second part does. -/
theorem Lands.sequence (hleft : left.Lands e) (hright : right.Lands e) :
    (Step.sequence left right).Lands e := by
  intro s node hs hmatched
  simp only [Step.sequence] at hmatched ⊢
  split at hmatched
  · cases hmatched
  · cases hmatched
  next hl =>
    split at hmatched
    · cases hmatched
    · cases hmatched
    next hr => exact hright _ _ (hleft s .empty hs hl) hr

/-- A match of a choice ends where one of its alternatives does. -/
theorem Lands.choice (hleft : left.Lands e) (hright : right.Lands e) :
    (Step.choice left right).Lands e := by
  intro s node hs hmatched
  simp only [Step.choice] at hmatched ⊢
  split at hmatched
  · cases hmatched
  next hl => exact hleft s .empty hs hl
  · split at hmatched
    · cases hmatched
    next hr => exact hright _ .empty (by simpa using hs) hr
    · cases hmatched

/-- Every turn of a loop starts where the one before it has ended. -/
theorem Lands.loop (hbody : body.Lands e) (max : Option Nat) (fuel count : Nat) {s : ParseState}
    (node : ParseTree) (hs : isBoundary e.input s.position = true)
    (hends : (Step.loop max body fuel count s node).error? = none) :
    isBoundary e.input (Step.loop max body fuel count s node).state.position = true := by
  induction fuel generalizing count s node with
  | zero => exact hs
  | succ fuel ih =>
    cases hmore : mayContinue max count with
    | false =>
      rw [loop_of_full hmore]
      exact hs
    | true =>
      cases hverdict : (body s .empty).verdict with
      | halted error =>
        rw [loop_of_halted hmore hverdict] at hends
        cases hends
      | failed =>
        rw [loop_of_failed hmore hverdict]
        simpa using hs
      | matched =>
        have hturn := hbody s .empty hs hverdict
        by_cases hidle : (body s .empty).state.position = s.position
        · rw [loop_of_idle hmore hverdict hidle]
          exact hturn
        · rw [loop_of_further hmore hverdict hidle] at hends ⊢
          exact ih _ _ hturn hends

/-- A match of a repetition ends where its last turn does. -/
theorem Lands.repetition (hbody : body.Lands e) (min : Nat) (max : Option Nat) :
    (Step.repetition e min max body).Lands e := by
  intro s node hs hmatched
  have hloop := hbody.loop max (byteLength e.input - s.position + 1) 0 .empty hs
  simp only [Step.repetition] at hmatched ⊢
  split at hmatched
  · cases hmatched
  next hends =>
    split at hmatched
    · cases hmatched
    next hmin =>
      rw [if_neg hmin]
      exact hloop hends

/-- A match of a lookahead ends where it started. -/
theorem lands_not : (Step.not body).Lands e := by
  intro s node hs hmatched
  simp only [Step.not] at hmatched ⊢
  split at hmatched
  · cases hmatched
  · cases hmatched
  · simpa using hs

/-- Dropping output does not move the end of a match. -/
theorem Lands.drop (hbody : body.Lands e) : (Step.drop body).Lands e :=
  fun s _ hs hmatched => hbody s .empty hs hmatched

/-- Joining output does not move the end of a match. -/
theorem Lands.terminal (hbody : body.Lands e) (decode : Bool) :
    (Step.terminal e decode body).Lands e := by
  intro s node hs hmatched
  simp only [Step.terminal] at hmatched ⊢
  split at hmatched
  · cases hmatched
  · cases hmatched
  next hinside => exact hbody s .empty hs hinside

/-- A label does not move the end of a match. -/
theorem Lands.errorName (hbody : body.Lands e) (label : String) (promote : Bool) :
    (Step.errorName label promote body).Lands e :=
  fun s node hs hmatched =>
    hbody { s with labels := ⟨label, promote, s.position⟩ :: s.labels } node hs hmatched

/-- A match of a rule ends where its body does. -/
theorem Lands.call (hbody : body.Lands e) (name : String) (capture : Bool) :
    (Step.call e name capture body).Lands e := by
  intro s node hs hmatched
  rcases Nat.lt_or_ge s.depth e.limit with hroom | hlimit
  · rw [call_of_lt hroom] at hmatched ⊢
    dsimp only at hmatched ⊢
    split at hmatched
    · cases hmatched
    · cases hmatched
    next hinside => exact hbody (s.enterRule name) (.ofRule name s.position) hs hinside
  · rw [call_of_le hlimit] at hmatched
    cases hmatched

end Step

/-- A match of a routine ends at a boundary. -/
theorem Routine.lands_run (e : Setting) (routine : Routine) : Step.Lands e (routine.run e) := by
  induction routine with
  | literal text => exact Step.lands_literal text
  | pattern id => exact Step.lands_pattern id
  | sequence left right ihl ihr => exact ihl.sequence ihr
  | choice left right ihl ihr => exact ihl.choice ihr
  | repetition min max body ih => exact ih.repetition min max
  | not body ih => exact Step.lands_not
  | drop body ih => exact ih.drop
  | terminal decode body ih => exact ih.terminal decode
  | errorName label promote body ih => exact ih.errorName label promote
  | rule name capture body ih => exact ih.call name capture

namespace Interpreter

/-- Every operation ends its matches at boundaries if its operands do. -/
theorem compositional_lands (e : Setting) (program : Program) :
    Compositional e program fun _ step => step.Lands e where
  literal := Step.lands_literal
  pattern _ := Step.lands_pattern _
  uncompiled _ := Step.lands_halt _
  sequence := Step.Lands.sequence
  choice := Step.Lands.choice
  repetition min max _ _ hbody := hbody.repetition min max
  not _ := Step.lands_not
  drop := Step.Lands.drop
  terminal decode _ _ hbody := hbody.terminal decode
  errorName label promote _ _ hbody := hbody.errorName label promote
  call _ hbody := hbody.call _ _
  exhausted _ := Step.lands_halt _

/-- A match of a combinator of a program ends at a boundary. -/
theorem lands_eval (e : Setting) (program : Program) (budget : Nat) (c : Combinator) :
    Step.Lands e (eval e (call e program budget) c) :=
  (compositional_lands e program).eval_of_callee fun id _ =>
    (compositional_lands e program).call_run_of_failed (fun _ => Step.lands_failed) budget id

end Interpreter

end Peg
