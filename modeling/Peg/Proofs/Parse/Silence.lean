import Peg.Proofs.Parse.Atomicity
import Peg.Proofs.Parse.Lockstep

/-!
# Lookaheads are silent

While a lookahead is under way, no failure is recorded and no record becomes obsolete. So a
lookahead leaves the record as it is, however it ends. No move of the machine depends on the number
of lookaheads under way, and therefore a lookahead for a lookahead matches where its body does.
-/

namespace Peg

namespace ParseState

/-- Inside a lookahead a failure is not recorded. -/
theorem failure_fail_of_muted {s : ParseState} (h : 0 < s.suppress) (natural : String) :
    (s.fail natural).failure = s.failure := by
  simp [fail, emit, h]

/-- Inside a lookahead accepted input does not touch the record of failures. -/
theorem failure_accept_of_muted {s : ParseState} (h : 0 < s.suppress) (stop : Nat) :
    (s.accept stop).failure = s.failure := by
  simp [accept, Nat.ne_of_gt h]

/-- The frames of two states agree, and so do their records if a lookahead is under way. -/
structure Muted (s t : ParseState) : Prop where
  frame : s.SameFrame t
  failure : 0 < s.suppress → t.failure = s.failure

/-- No move of the machine makes a lookahead heard. -/
theorem kept_muted : Kept Muted where
  refl s := ⟨.refl s, fun _ => rfl⟩
  trans {s t u} hst htu := by
    refine ⟨hst.frame.trans htu.frame, fun hmuted => ?_⟩
    have hbetween : 0 < t.suppress := hst.frame.suppress ▸ hmuted
    rw [htu.failure hbetween, hst.failure hmuted]
  restore s target := ⟨sameFrame_restore s target, fun _ => failure_restore s target⟩
  fail s natural := ⟨sameFrame_fail s natural, fun h => failure_fail_of_muted h natural⟩
  accept s stop := ⟨sameFrame_accept s stop, fun h => failure_accept_of_muted h stop⟩
  not h := ⟨kept_sameFrame.not h.frame, fun _ => h.failure (Nat.succ_pos _)⟩
  errorName o h := ⟨kept_sameFrame.errorName o h.frame, h.failure⟩
  call name h := ⟨kept_sameFrame.call name h.frame, h.failure⟩
  exit name matched h := ⟨kept_sameFrame.exit name matched h.frame, h.failure⟩

/-- The cursor is at the same place, with the same number of calls under way. -/
structure SamePlace (s t : ParseState) : Prop where
  position : t.position = s.position
  depth : t.depth = s.depth

section Place

variable {s t u : ParseState}

/-- A state is at its own place. -/
theorem SamePlace.refl (s : ParseState) : s.SamePlace s :=
  ⟨rfl, rfl⟩

/-- Being at the same place goes both ways. -/
theorem SamePlace.symm (h : s.SamePlace t) : t.SamePlace s :=
  ⟨h.position.symm, h.depth.symm⟩

/-- States at the place of the same one are at the same place. -/
theorem SamePlace.trans (hst : s.SamePlace t) (htu : t.SamePlace u) : s.SamePlace u :=
  ⟨htu.position.trans hst.position, htu.depth.trans hst.depth⟩

/-- A step that has put the cursor back is at the place where it started. -/
theorem SameFrame.samePlace_restore (h : s.SameFrame t) : s.SamePlace (t.restore s.position) :=
  ⟨position_restore _ _, (h.trans (sameFrame_restore t s.position)).depth⟩

end Place

/-- No move of the machine looks at anything but the place. -/
theorem correspondence_samePlace : Correspondence SamePlace where
  position_eq h := h.position
  depth_eq h := h.depth
  emit h _ := ⟨h.position, h.depth⟩
  move h _ := ⟨rfl, h.depth⟩
  mute h _ := ⟨h.position, h.depth⟩
  nest h f := ⟨h.position, congrArg f h.depth⟩
  label h _ := ⟨h.position, h.depth⟩
  fail {s t} h natural := by
    refine ⟨by simp [h.position], ?_⟩
    rw [(sameFrame_fail t natural).depth, (sameFrame_fail s natural).depth, h.depth]
  accept h _ := ⟨rfl, h.depth⟩

end ParseState

namespace Step

open ParseState

/-- Nothing is heard of the step while a lookahead is under way, and no lookahead for the step is
heard of either. -/
structure Silent (step : Step) : Prop where
  /-- The furthest failure and what is expected there are those from before. -/
  muted : ∀ s node, 0 < s.suppress → (step s node).state.failure = s.failure
  /-- A lookahead for the step leaves the record as it is, however it ends. -/
  record : ∀ s node, (Step.not step s node).state.failure = s.failure
  suppress : ∀ s node, (Step.not step s node).state.suppress = s.suppress
  node : ∀ s node, (Step.not step s node).node = node
  /-- Only a halt may leave the cursor elsewhere. -/
  position : ∀ s node, (∀ error, (Step.not step s node).verdict ≠ .halted error) →
    (Step.not step s node).state.position = s.position
  /-- A lookahead for a lookahead for the step ends as the step does. -/
  twice : ∀ s node, (Step.not (Step.not step) s node).verdict = (step s node).verdict

variable {body : Step}

/-- A lookahead records nothing, because its body is evaluated while it is under way. -/
theorem failure_not (h : body.Keeps Muted) (s : ParseState) (node : ParseTree) :
    (Step.not body s node).state.failure = s.failure := by
  have hinside := (h { s with suppress := s.suppress + 1 } .empty).failure (Nat.succ_pos _)
  simp only [Step.not]
  split
  · exact hinside
  · rw [failure_restore]
    exact hinside
  · rw [failure_restore]
    exact hinside

/-- A lookahead adds nothing to the node. -/
theorem node_not (s : ParseState) (node : ParseTree) : (Step.not body s node).node = node := by
  simp only [Step.not]
  split <;> rfl

/-- Unless it halts, a lookahead leaves the cursor where it was. -/
theorem position_not {s : ParseState} {node : ParseTree}
    (h : ∀ error, (Step.not body s node).verdict ≠ .halted error) :
    (Step.not body s node).state.position = s.position := by
  simp only [Step.not] at h ⊢
  split
  next error hhalt =>
    rw [hhalt] at h
    exact absurd rfl (h error)
  · exact position_restore _ _
  · exact position_restore _ _

/-- Two lookaheads around a body end as the body does behind them. -/
theorem verdict_not_not (s : ParseState) (node : ParseTree) :
    (Step.not (Step.not body) s node).verdict =
      (body { s with suppress := s.suppress + 2 } .empty).verdict := by
  cases hverdict : (body { s with suppress := s.suppress + 2 } .empty).verdict with
  | matched => simp [Step.not, hverdict]
  | failed => simp [Step.not, hverdict]
  | halted error => simp [Step.not, hverdict]

/-- The outcome of an atomic step does not depend on the node. -/
theorem Atomic.verdict_eq (h : body.Atomic) (s : ParseState) (node node' : ParseTree) :
    (body s node).verdict = (body s node').verdict := by
  obtain ⟨effect, heffect, _⟩ := h.effect s
  rw [heffect, heffect]
  cases effect <;> rfl

/-- A step is silent if it is muted and atomic and its outcome depends on the place only. -/
theorem silent_of (hmuted : body.Keeps Muted) (hatomic : body.Atomic)
    (hlockstep : Lockstep (fun _ => False) SamePlace body body) : body.Silent where
  muted s node := (hmuted s node).failure
  record := failure_not hmuted
  suppress s node := (Keeps.not kept_sameFrame hatomic.balanced s node).suppress
  node := node_not
  position _ _ := position_not
  twice s node := by
    have hplace : SamePlace s { s with suppress := s.suppress + 2 } := ⟨rfl, rfl⟩
    rcases hlockstep _ _ .empty hplace with ⟨_, hnever, _⟩ | halike
    · exact hnever.elim
    · rw [verdict_not_not, halike.verdict, hatomic.verdict_eq]

end Step

namespace Routine

open ParseState

/-- Whatever the moves of the machine keep, a routine keeps. -/
theorem keeps_run {R : ParseState → ParseState → Prop} (hR : Kept R) (e : Setting)
    (routine : Routine) : Step.Keeps R (routine.run e) := by
  induction routine with
  | literal text => exact Step.keeps_literal hR e text
  | pattern id => exact Step.keeps_pattern hR e id
  | sequence left right ihl ihr => exact ihl.sequence hR ihr
  | choice left right ihl ihr => exact ihl.choice hR ihr
  | repetition min max body ih => exact ih.repetition hR e min max
  | not body ih => exact ih.not hR
  | drop body ih => exact ih.drop
  | terminal decode body ih => exact ih.terminal e decode
  | errorName label promote body ih => exact ih.errorName hR label promote
  | rule name capture body ih => exact ih.call hR e name capture

/-- In corresponding states a routine ends alike. -/
theorem lockstep_run {drops : ParseError → Prop} {S : ParseState → ParseState → Prop}
    (hS : Correspondence S) (e : Setting) (routine : Routine) :
    Step.Lockstep drops S (routine.run e) (routine.run e) := by
  induction routine with
  | literal text => exact Step.lockstep_literal hS text
  | pattern id => exact Step.lockstep_pattern hS id
  | sequence left right ihl ihr => exact ihl.sequence hS ihr
  | choice left right ihl ihr => exact ihl.choice hS ihr
  | repetition min max body ih => exact ih.repetition hS min max
  | not body ih => exact ih.not hS
  | drop body ih => exact ih.drop
  | terminal decode body ih => exact ih.terminal hS decode
  | errorName label promote body ih => exact ih.errorName hS label promote
  | rule name capture body ih => exact ih.call hS (.inl rfl) name capture

/-- Every routine is silent. -/
theorem silent_run (e : Setting) (routine : Routine) : Step.Silent (routine.run e) :=
  Step.silent_of (routine.keeps_run kept_muted e) (routine.atomic_run e)
    (routine.lockstep_run correspondence_samePlace e)

end Routine

namespace Interpreter

open ParseState

/-- Every combinator of a program is silent. -/
theorem silent_eval (e : Setting) (program : Program) (budget : Nat) (c : Combinator) :
    Step.Silent (eval e (call e program budget) c) := by
  have hkeeps := compositional_keeps kept_muted e program
  have hmuted : Step.Keeps Muted (eval e (call e program budget) c) :=
    hkeeps.eval_of_callee fun id _ =>
      hkeeps.call_run_of_failed (fun _ => Step.keeps_failed kept_muted) budget id
  have hatomic : Step.Atomic (eval e (call e program budget) c) :=
    (compositional_atomic e program).eval_of_callee fun id _ => atomic_call e program budget id
  have hcall : ∀ id, Step.Lockstep (fun _ => False) SamePlace (call e program budget id)
      (call e program budget id) := fun id =>
    lockstep_call e program correspondence_samePlace (.inl ⟨rfl, rfl⟩) id
  exact Step.silent_of hmuted hatomic
    (lockstep_eval_of_callee e e.limit correspondence_samePlace hcall c)

/-- Whatever a body is made of, it records nothing while a lookahead is under way. A lookahead for
it leaves the furthest failure and what is expected there as they were, however it ends, and unless
it halts it leaves the cursor and the node as they were. A lookahead for such a lookahead ends as
the body does. -/
theorem lookahead_silent (e : Setting) :
    (∀ routine : Routine, Step.Silent (routine.run e)) ∧
      ∀ (program : Program) (budget : Nat) (c : Combinator),
        Step.Silent (eval e (call e program budget) c) :=
  ⟨Routine.silent_run e, silent_eval e⟩

end Interpreter

end Peg
