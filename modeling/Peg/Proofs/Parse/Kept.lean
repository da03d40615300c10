import Peg.Proofs.Parse.Runs

/-!
# What every step keeps

A relation between the state before and the state behind a step holds of every step, however that
ends, if it holds of the single moves of the machine. What the operations have in common is proved
here once, for any such relation.
-/

namespace Peg

/-- A relation that holds between the states before and behind every move of the machine, and that
the operations hand on from their operands. -/
structure ParseState.Kept (R : ParseState → ParseState → Prop) : Prop where
  refl (s : ParseState) : R s s
  trans {s t u : ParseState} : R s t → R t u → R s u
  restore (s : ParseState) (target : Nat) : R s (s.restore target)
  fail (s : ParseState) (natural : String) : R s (s.fail natural)
  accept (s : ParseState) (stop : Nat) : R s (s.accept stop)
  not {s t : ParseState} : R { s with suppress := s.suppress + 1 } t →
    R s { t with suppress := t.suppress - 1 }
  errorName {s t : ParseState} (o : LabelOverride) : R { s with labels := o :: s.labels } t →
    R s { t with labels := t.labels.tail }
  call {s t : ParseState} (name : String) : R (s.enterRule name) t →
    R s { t with depth := t.depth - 1 }
  exit {s t : ParseState} (name : String) (matched : Bool) : R (s.enterRule name) t →
    R s (t.exitRule name matched)

namespace Step

open ParseState

/-- However the step ends, the relation holds between the states before and behind it. -/
def Keeps (R : ParseState → ParseState → Prop) (step : Step) : Prop :=
  ∀ (s : ParseState) (node : ParseTree), R s (step s node).state

variable {R : ParseState → ParseState → Prop} {left right body : Step}

/-- To halt leaves the state as it is. -/
theorem keeps_halt (hR : Kept R) (error : ParseError) : (halt error).Keeps R :=
  fun s _ => hR.refl s

/-- The call of a rule that does not exist fails at once. -/
theorem keeps_failed (hR : Kept R) : Keeps R fun s node => ⟨.failed, s, node⟩ :=
  fun s _ => hR.refl s

/-- A literal accepts or fails, and both are moves that keep the relation. -/
theorem keeps_literal (hR : Kept R) (e : Setting) (text : String) : (literal e text).Keeps R := by
  intro s node
  unfold literal
  split
  · exact hR.accept s _
  · exact hR.fail s _

/-- A pattern accepts, fails or halts, and all are moves that keep the relation. -/
theorem keeps_pattern (hR : Kept R) (e : Setting) (id : Nat) : (pattern e id).Keeps R := by
  intro s node
  unfold pattern
  split
  · exact hR.refl s
  · exact hR.accept s _
  · exact hR.fail s _

/-- A sequence keeps what its parts keep. -/
theorem Keeps.sequence (hR : Kept R) (hleft : left.Keeps R) (hright : right.Keeps R) :
    (Step.sequence left right).Keeps R := by
  intro s node
  have hl := hleft s .empty
  have hr := hR.trans hl (hright (left s .empty).state (left s .empty).node)
  simp only [Step.sequence]
  split
  · exact hl
  · exact hR.trans hl (hR.restore _ _)
  · split
    · exact hr
    · exact hR.trans hr (hR.restore _ _)
    · exact hr

/-- A choice keeps what its alternatives keep. -/
theorem Keeps.choice (hR : Kept R) (hleft : left.Keeps R) (hright : right.Keeps R) :
    (Step.choice left right).Keeps R := by
  intro s node
  have hl := hleft s .empty
  have hr := hR.trans (hR.trans hl (hR.restore _ s.position))
    (hright ((left s .empty).state.restore s.position) .empty)
  simp only [Step.choice]
  split
  · exact hl
  · exact hl
  · split
    · exact hr
    · exact hr
    · exact hR.trans hr (hR.restore _ _)

/-- What every turn of a loop keeps is kept by the loop. -/
theorem Keeps.loop (hR : Kept R) (hbody : body.Keeps R) (max : Option Nat) (fuel count : Nat)
    (s : ParseState) (node : ParseTree) :
    R s (Step.loop max body fuel count s node).state := by
  induction fuel generalizing count s node with
  | zero => exact hR.refl s
  | succ fuel ih =>
    have hturn := hbody s .empty
    simp only [Step.loop]
    split
    · split
      · exact hturn
      · exact hR.trans hturn (hR.restore _ _)
      · split
        · exact hturn
        · exact hR.trans hturn (ih _ _ _)
    · exact hR.refl s

/-- A repetition keeps what its body keeps. -/
theorem Keeps.repetition (hR : Kept R) (hbody : body.Keeps R) (e : Setting) (min : Nat)
    (max : Option Nat) : (Step.repetition e min max body).Keeps R := by
  intro s node
  have hloop := hbody.loop hR max (Text.byteLength e.input - s.position + 1) 0 s .empty
  simp only [Step.repetition]
  split
  · exact hloop
  · split
    · exact hR.trans hloop (hR.restore _ _)
    · exact hloop

/-- A lookahead keeps what its body keeps. -/
theorem Keeps.not (hR : Kept R) (hbody : body.Keeps R) : (Step.not body).Keeps R := by
  intro s node
  have hafter := hR.not (hbody { s with suppress := s.suppress + 1 } .empty)
  simp only [Step.not]
  split
  · exact hafter
  · exact hR.trans hafter (hR.restore _ _)
  · exact hR.trans hafter (hR.restore _ _)

/-- A part without output keeps what its body keeps. -/
theorem Keeps.drop (hbody : body.Keeps R) : (Step.drop body).Keeps R :=
  fun s _ => hbody s .empty

/-- A terminal keeps what its body keeps. -/
theorem Keeps.terminal (hbody : body.Keeps R) (e : Setting) (decode : Bool) :
    (Step.terminal e decode body).Keeps R := by
  intro s node
  have hrun := hbody s .empty
  simp only [Step.terminal]
  split
  · exact hrun
  · exact hrun
  · exact hrun

/-- A label keeps what its body keeps. -/
theorem Keeps.errorName (hR : Kept R) (hbody : body.Keeps R) (label : String) (promote : Bool) :
    (Step.errorName label promote body).Keeps R :=
  fun s node => hR.errorName ⟨label, promote, s.position⟩
    (hbody { s with labels := ⟨label, promote, s.position⟩ :: s.labels } node)

/-- A rule keeps what its body keeps. -/
theorem Keeps.call (hR : Kept R) (hbody : body.Keeps R) (e : Setting) (name : String)
    (capture : Bool) : (Step.call e name capture body).Keeps R := by
  intro s node
  rcases Nat.lt_or_ge s.depth e.limit with hroom | hlimit
  · have hrun := hbody (s.enterRule name) (.ofRule name s.position)
    rw [call_of_lt hroom]
    dsimp only
    split
    · exact hR.call name hrun
    · exact hR.trans (hR.exit name false hrun) (hR.restore _ _)
    · exact hR.exit name true hrun
  · rw [call_of_le hlimit]
    exact hR.refl s

end Step

namespace Interpreter

/-- Every operation keeps a relation if its operands do. -/
theorem compositional_keeps {R : ParseState → ParseState → Prop} (hR : ParseState.Kept R)
    (e : Setting) (program : Program) : Compositional e program fun _ step => step.Keeps R where
  literal := Step.keeps_literal hR e
  pattern _ := Step.keeps_pattern hR e _
  uncompiled _ := Step.keeps_halt hR _
  sequence := Step.Keeps.sequence hR
  choice := Step.Keeps.choice hR
  repetition min max _ _ hbody := hbody.repetition hR e min max
  not := Step.Keeps.not hR
  drop := Step.Keeps.drop
  terminal decode _ _ hbody := hbody.terminal e decode
  errorName label promote _ _ hbody := hbody.errorName hR label promote
  call _ hbody := hbody.call hR e _ _
  exhausted _ := Step.keeps_halt hR _

end Interpreter

end Peg
