import Peg.Parse.Routine
import Peg.Proofs.Parse.Frame
import Peg.Proofs.Parse.PatternTable
import Peg.Proofs.Regex.MatchEnd

/-!
# Backtracking is atomic

A step that matches adds its output behind what its node holds already, and a step that does not
match adds nothing. What is added, how the step ends and in which state are all determined by the
state in which it starts; the node is never read. A failure puts the cursor back.
-/

namespace Peg

namespace ParseTree

/-- Put text behind the text and nodes behind the children. -/
def append (t : ParseTree) (text : String) (children : List ParseTree) : ParseTree :=
  { t with text := t.text ++ text, children := t.children ++ children }

/-- Adding a child is putting one node behind the others. -/
theorem addChild_eq_append (t child : ParseTree) : t.addChild child = t.append "" [child] := by
  simp [addChild, append]

/-- Adding text is putting text behind what is there. -/
theorem addText_eq_append (t : ParseTree) (text : String) : t.addText text = t.append text [] := by
  simp [addText, append]

/-- Splicing a node is putting its text and its children behind what is there. -/
theorem splice_eq_append (t other : ParseTree) :
    t.splice other = t.append other.text other.children := rfl

/-- Putting nothing behind a node leaves it as it is. -/
@[simp] theorem append_empty (t : ParseTree) : t.append "" [] = t := by
  cases t
  simp [append]

end ParseTree

/-- What a step does, apart from the node to which it contributes. -/
inductive Effect where
  | matched (state : ParseState) (text : String) (children : List ParseTree)
  | failed (state : ParseState)
  | halted (error : ParseError) (state : ParseState)

namespace Effect

/-- The effect on a node. Only a match adds anything to it. -/
def on : Effect → ParseTree → Outcome
  | matched state text children, node => ⟨.matched, state, node.append text children⟩
  | failed state, node => ⟨.failed, state, node⟩
  | halted error state, node => ⟨.halted error, state, node⟩

/-- A match does not move the cursor back from where it was, and a failure puts it there. -/
def Rewinds (start : Nat) : Effect → Prop
  | matched state _ _ => start ≤ state.position
  | failed state => state.position = start
  | halted _ _ => True

end Effect

namespace Step

open ParseState

/-- The step has an effect that depends on the state only. It leaves the labels, the lookaheads and
the calls as they were, and it puts the cursor back when it fails. -/
structure Atomic (step : Step) : Prop where
  balanced : step.Balanced
  effect : ∀ s, ∃ effect : Effect, (∀ node, step s node = effect.on node) ∧
    effect.Rewinds s.position

/-- A match does not move the cursor back. -/
theorem Atomic.position_le {step : Step} (h : step.Atomic) {s : ParseState} {node : ParseTree}
    (hmatched : (step s node).verdict = .matched) :
    s.position ≤ (step s node).state.position := by
  obtain ⟨effect, heffect, hrewinds⟩ := h.effect s
  rw [heffect] at hmatched ⊢
  cases effect with
  | matched => exact hrewinds
  | failed => cases hmatched
  | halted => cases hmatched

/-- A failure leaves the cursor where it was. -/
theorem Atomic.position_of_failed {step : Step} (h : step.Atomic) {s : ParseState}
    {node : ParseTree} (hfailed : (step s node).verdict = .failed) :
    (step s node).state.position = s.position := by
  obtain ⟨effect, heffect, hrewinds⟩ := h.effect s
  rw [heffect] at hfailed ⊢
  cases effect with
  | matched => cases hfailed
  | failed => exact hrewinds
  | halted => cases hfailed

/-- To halt at once has the same effect everywhere. -/
theorem atomic_halt (error : ParseError) : (halt error).Atomic where
  balanced := keeps_halt kept_sameFrame error
  effect s := ⟨.halted error s, fun _ => rfl, trivial⟩

/-- The call of a rule that does not exist fails at once. -/
theorem atomic_failed : Step.Atomic fun s node => ⟨.failed, s, node⟩ where
  balanced s _ := .refl s
  effect s := ⟨.failed s, fun _ => rfl, rfl⟩

/-- What accepting input does depends on the state only, and a match does not go back. -/
theorem effect_accept (e : Setting) {s : ParseState} {stop : Nat} (h : s.position ≤ stop) :
    ∃ effect : Effect, (∀ node, accept e stop s node = effect.on node) ∧
      effect.Rewinds s.position := by
  let text := String.ofList (Text.slice e.input s.position stop)
  refine ⟨.matched (s.accept stop) "" [.leaf text s.position stop], fun node => ?_, h⟩
  simp only [accept, ParseTree.addChild_eq_append, Effect.on, text]

/-- What rejecting input does depends on the state only, and leaves the cursor where it is. -/
theorem effect_reject (natural : String) (s : ParseState) :
    ∃ effect : Effect, (∀ node, reject natural s node = effect.on node) ∧
      effect.Rewinds s.position :=
  ⟨.failed (s.fail natural), fun _ => rfl, position_fail s natural⟩

/-- A literal is atomic. -/
theorem atomic_literal (e : Setting) (text : String) : (literal e text).Atomic where
  balanced := keeps_literal kept_sameFrame e text
  effect s := by
    unfold literal
    split
    · exact effect_accept e (Nat.le_add_right _ _)
    · exact effect_reject _ s

/-- A pattern is atomic. -/
theorem atomic_pattern (e : Setting) (id : Nat) : (pattern e id).Atomic where
  balanced := keeps_pattern kept_sameFrame e id
  effect s := by
    unfold pattern
    split
    next error _ => exact ⟨.halted error s, fun _ => rfl, trivial⟩
    next stop hmatch =>
      obtain ⟨entry, _, hentry⟩ := PatternTable.matchAt_eq_ok_iff.mp hmatch
      exact effect_accept e (Regex.Automaton.matchAt_stop hentry).1
    · exact effect_reject _ s

variable {left right body : Step}

/-- A sequence puts the cursor back if its second part fails, and so it is atomic if its parts
are. -/
theorem Atomic.sequence (hleft : left.Atomic) (hright : right.Atomic) :
    (Step.sequence left right).Atomic where
  balanced := Keeps.sequence kept_sameFrame hleft.balanced hright.balanced
  effect s := by
    obtain ⟨first, hfirst, hrewinds⟩ := hleft.effect s
    cases first with
    | halted error t =>
      exact ⟨.halted error t, fun node => by simp [Step.sequence, hfirst, Effect.on], trivial⟩
    | failed t =>
      refine ⟨.failed (t.restore s.position), fun node => ?_, position_restore _ _⟩
      simp [Step.sequence, hfirst, Effect.on]
    | matched t text children =>
      obtain ⟨second, hsecond, hrewinds'⟩ := hright.effect t
      cases second with
      | halted error u =>
        refine ⟨.halted error u, fun node => ?_, trivial⟩
        simp [Step.sequence, hfirst, hsecond, Effect.on]
      | failed u =>
        refine ⟨.failed (u.restore s.position), fun node => ?_, position_restore _ _⟩
        simp [Step.sequence, hfirst, hsecond, Effect.on]
      | matched u text' children' =>
        let output := (ParseTree.empty.append text children).append text' children'
        refine ⟨.matched u output.text output.children, fun node => ?_,
          Nat.le_trans hrewinds hrewinds'⟩
        simp [Step.sequence, hfirst, hsecond, Effect.on, ParseTree.splice_eq_append, output]

/-- A choice puts the cursor back between its alternatives, and so it is atomic if these are. -/
theorem Atomic.choice (hleft : left.Atomic) (hright : right.Atomic) :
    (Step.choice left right).Atomic where
  balanced := Keeps.choice kept_sameFrame hleft.balanced hright.balanced
  effect s := by
    obtain ⟨first, hfirst, hrewinds⟩ := hleft.effect s
    cases first with
    | halted error t =>
      exact ⟨.halted error t, fun node => by simp [Step.choice, hfirst, Effect.on], trivial⟩
    | matched t text children =>
      let output := ParseTree.empty.append text children
      refine ⟨.matched t output.text output.children, fun node => ?_, hrewinds⟩
      simp [Step.choice, hfirst, Effect.on, ParseTree.splice_eq_append, output]
    | failed t =>
      obtain ⟨second, hsecond, hrewinds'⟩ := hright.effect (t.restore s.position)
      rw [position_restore] at hrewinds'
      cases second with
      | halted error u =>
        refine ⟨.halted error u, fun node => ?_, trivial⟩
        simp [Step.choice, hfirst, hsecond, Effect.on]
      | failed u =>
        refine ⟨.failed (u.restore s.position), fun node => ?_, position_restore _ _⟩
        simp [Step.choice, hfirst, hsecond, Effect.on]
      | matched u text' children' =>
        let output := ParseTree.empty.append text' children'
        refine ⟨.matched u output.text output.children, fun node => ?_, hrewinds'⟩
        simp [Step.choice, hfirst, hsecond, Effect.on, ParseTree.splice_eq_append, output]

/-- A loop that does not end by an error does not move the cursor back. -/
theorem Atomic.loop_position (hbody : body.Atomic) (max : Option Nat) (fuel count : Nat)
    (s : ParseState) (node : ParseTree)
    (hends : (Step.loop max body fuel count s node).error? = none) :
    s.position ≤ (Step.loop max body fuel count s node).state.position := by
  induction fuel generalizing count s node with
  | zero => exact Nat.le_refl _
  | succ fuel ih =>
    cases hmore : mayContinue max count with
    | false => exact Nat.le_of_eq (by rw [loop_of_full hmore])
    | true =>
      obtain ⟨turn, hturn, hrewinds⟩ := hbody.effect s
      have hrun := hturn .empty
      cases turn with
      | halted error t =>
        rw [loop_of_halted hmore (congrArg Outcome.verdict hrun)] at hends
        cases hends
      | failed t =>
        rw [loop_of_failed hmore (congrArg Outcome.verdict hrun)]
        exact Nat.le_of_eq (position_restore _ _).symm
      | matched t text children =>
        have hstate : (body s .empty).state = t := congrArg Outcome.state hrun
        by_cases hidle : (body s .empty).state.position = s.position
        · rw [loop_of_idle hmore (congrArg Outcome.verdict hrun) hidle]
          exact Nat.le_of_eq hidle.symm
        · rw [loop_of_further hmore (congrArg Outcome.verdict hrun) hidle] at hends ⊢
          refine Nat.le_trans ?_ (ih _ _ _ hends)
          rw [hstate]
          exact hrewinds

/-- A repetition puts the cursor back if it has had too few turns, and so it is atomic if its body
is. -/
theorem Atomic.repetition (hbody : body.Atomic) (e : Setting) (min : Nat) (max : Option Nat) :
    (Step.repetition e min max body).Atomic where
  balanced := Keeps.repetition kept_sameFrame hbody.balanced e min max
  effect s := by
    have hposition := hbody.loop_position max (Text.byteLength e.input - s.position + 1) 0 s .empty
    simp only [Step.repetition]
    split
    next error _ => exact ⟨.halted error _, fun _ => rfl, trivial⟩
    next hends =>
      split
      · exact ⟨.failed _, fun _ => rfl, position_restore _ _⟩
      · exact ⟨.matched _ _ _, fun _ => rfl, hposition hends⟩

/-- A lookahead always puts the cursor back, and so it is atomic if its body is. -/
theorem Atomic.not (hbody : body.Atomic) : (Step.not body).Atomic where
  balanced := Keeps.not kept_sameFrame hbody.balanced
  effect s := by
    simp only [Step.not]
    split
    next error _ => exact ⟨.halted error _, fun _ => rfl, trivial⟩
    · exact ⟨.failed _, fun _ => rfl, position_restore _ _⟩
    · exact ⟨.matched _ "" [], fun node => by rw [Effect.on, ParseTree.append_empty],
        Nat.le_of_eq (position_restore _ _).symm⟩

/-- Dropping output leaves a step atomic. -/
theorem Atomic.drop (hbody : body.Atomic) : (Step.drop body).Atomic where
  balanced := Keeps.drop hbody.balanced
  effect s := by
    obtain ⟨effect, heffect, hrewinds⟩ := hbody.effect s
    cases effect with
    | halted error t =>
      exact ⟨.halted error t, fun node => by simp [Step.drop, heffect, Effect.on], trivial⟩
    | failed t =>
      exact ⟨.failed t, fun node => by simp [Step.drop, heffect, Effect.on], hrewinds⟩
    | matched t text children =>
      refine ⟨.matched t "" [], fun node => ?_, hrewinds⟩
      simp [Step.drop, heffect, Effect.on]

/-- Joining output leaves a step atomic. -/
theorem Atomic.terminal (hbody : body.Atomic) (e : Setting) (decode : Bool) :
    (Step.terminal e decode body).Atomic where
  balanced := Keeps.terminal hbody.balanced e decode
  effect s := by
    obtain ⟨effect, heffect, hrewinds⟩ := hbody.effect s
    cases effect with
    | halted error t =>
      exact ⟨.halted error t, fun node => by simp [Step.terminal, heffect, Effect.on], trivial⟩
    | failed t =>
      exact ⟨.failed t, fun node => by simp [Step.terminal, heffect, Effect.on], hrewinds⟩
    | matched t text children =>
      let slice := String.ofList (Text.slice e.input s.position t.position)
      let added := if decode then Text.unescape slice else slice
      refine ⟨.matched t added [], fun node => ?_, hrewinds⟩
      simp only [Step.terminal, heffect, Effect.on, ParseTree.addText_eq_append, added, slice]

/-- A label is taken back in all cases, and so a labelled step is atomic if its body is. -/
theorem Atomic.errorName (hbody : body.Atomic) (label : String) (promote : Bool) :
    (Step.errorName label promote body).Atomic where
  balanced := Keeps.errorName kept_sameFrame hbody.balanced label promote
  effect s := by
    -- The only operation that hands its own node to its body, so the effect is that of the body.
    obtain ⟨effect, heffect, hrewinds⟩ :=
      hbody.effect { s with labels := ⟨label, promote, s.position⟩ :: s.labels }
    cases effect with
    | halted error t =>
      refine ⟨.halted error { t with labels := t.labels.tail }, fun node => ?_, trivial⟩
      simp [Step.errorName, heffect, Effect.on]
    | failed t =>
      refine ⟨.failed { t with labels := t.labels.tail }, fun node => ?_, hrewinds⟩
      simp [Step.errorName, heffect, Effect.on]
    | matched t text children =>
      refine ⟨.matched { t with labels := t.labels.tail } text children, fun node => ?_, hrewinds⟩
      simp [Step.errorName, heffect, Effect.on]

/-- A call is taken back in all cases, and so a rule is atomic if its body is. -/
theorem Atomic.call (hbody : body.Atomic) (e : Setting) (name : String) (capture : Bool) :
    (Step.call e name capture body).Atomic where
  balanced := Keeps.call kept_sameFrame hbody.balanced e name capture
  effect s := by
    rcases Nat.lt_or_ge s.depth e.limit with hroom | hlimit
    · obtain ⟨effect, heffect, hrewinds⟩ := hbody.effect (s.enterRule name)
      simp only [call_of_lt hroom, heffect]
      cases effect with
      | halted error t => exact ⟨.halted error _, fun _ => rfl, trivial⟩
      | failed t => exact ⟨.failed _, fun _ => rfl, position_restore _ _⟩
      | matched t text children =>
        cases capture with
        | true =>
          let child := { (ParseTree.ofRule name s.position).append text children with
            stop := t.position }
          refine ⟨.matched (t.exitRule name true) "" [child], fun node => ?_, hrewinds⟩
          exact congrArg (Outcome.mk _ _) (ParseTree.addChild_eq_append node child)
        | false => exact ⟨.matched (t.exitRule name true) _ _, fun _ => rfl, hrewinds⟩
    · simp only [call_of_le hlimit]
      exact ⟨.halted _ s, fun _ => rfl, trivial⟩

end Step

/-- A routine applies the operations directly. -/
theorem Routine.atomic_run (e : Setting) (routine : Routine) : Step.Atomic (routine.run e) := by
  induction routine with
  | literal text => exact Step.atomic_literal e text
  | pattern id => exact Step.atomic_pattern e id
  | sequence left right ihl ihr => exact ihl.sequence ihr
  | choice left right ihl ihr => exact ihl.choice ihr
  | repetition min max body ih => exact ih.repetition e min max
  | not body ih => exact ih.not
  | drop body ih => exact ih.drop
  | terminal decode body ih => exact ih.terminal e decode
  | errorName label promote body ih => exact ih.errorName label promote
  | rule name capture body ih => exact ih.call e name capture

namespace Interpreter

/-- Every operation is atomic if its operands are. -/
theorem compositional_atomic (e : Setting) (program : Program) :
    Compositional e program fun _ step => step.Atomic where
  literal := Step.atomic_literal e
  pattern _ := Step.atomic_pattern e _
  uncompiled _ := Step.atomic_halt _
  sequence := Step.Atomic.sequence
  choice := Step.Atomic.choice
  repetition min max _ _ hbody := hbody.repetition e min max
  not := Step.Atomic.not
  drop := Step.Atomic.drop
  terminal decode _ _ hbody := hbody.terminal e decode
  errorName label promote _ _ hbody := hbody.errorName label promote
  call _ hbody := hbody.call e _ _
  exhausted _ := Step.atomic_halt _

/-- Rules of a program are atomic, however deep the recursion may go. -/
theorem atomic_call (e : Setting) (program : Program) (budget : Nat) (id : RuleId) :
    Step.Atomic (call e program budget id) :=
  (compositional_atomic e program).call_run_of_failed (fun _ => Step.atomic_failed) budget id

/-- Whatever a parser is made of, each of its runs either matches and adds output that does not
depend on the node, or leaves the node as it was. A failure puts the cursor back, a match does not
move it back, and neither they nor an error change the labels, the lookaheads or the calls. -/
theorem backtracking_atomic (e : Setting) :
    (∀ routine : Routine, Step.Atomic (routine.run e)) ∧
      ∀ (program : Program) (budget : Nat) (c : Combinator),
        Step.Atomic (eval e (call e program budget) c) :=
  ⟨Routine.atomic_run e, fun program budget _ =>
    (compositional_atomic e program).eval_of_callee fun id _ => atomic_call e program budget id⟩

end Interpreter

end Peg
