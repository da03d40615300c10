import Peg.Proofs.Parse.Kept

/-!
# What a step leaves as it was

However a step ends, the labels in force, the lookaheads under way and the calls under way are those
from before it. This is what allows a step to be followed by another one at the same place of a
program.
-/

namespace Peg

namespace ParseState

/-- The labels, the lookaheads and the calls of two states agree. -/
structure SameFrame (s t : ParseState) : Prop where
  labels : t.labels = s.labels
  suppress : t.suppress = s.suppress
  depth : t.depth = s.depth

/-- A state has its own frame. -/
theorem SameFrame.refl (s : ParseState) : s.SameFrame s :=
  ⟨rfl, rfl, rfl⟩

/-- Frames that are the same as a third one are the same. -/
theorem SameFrame.trans {s t u : ParseState} (hst : s.SameFrame t) (htu : t.SameFrame u) :
    s.SameFrame u :=
  ⟨htu.labels.trans hst.labels, htu.suppress.trans hst.suppress, htu.depth.trans hst.depth⟩

/-- To go back to an earlier place changes nothing of the frame. -/
theorem sameFrame_restore (s : ParseState) (target : Nat) : s.SameFrame (s.restore target) := by
  unfold restore
  split
  · exact .refl s
  · exact ⟨rfl, rfl, rfl⟩

/-- To record a failure changes nothing of the frame. -/
theorem sameFrame_fail (s : ParseState) (natural : String) : s.SameFrame (s.fail natural) := by
  simp only [fail]
  split
  · exact ⟨rfl, rfl, rfl⟩
  · exact ⟨rfl, rfl, rfl⟩

/-- To move past accepted input changes nothing of the frame. -/
theorem sameFrame_accept (s : ParseState) (stop : Nat) : s.SameFrame (s.accept stop) :=
  ⟨rfl, rfl, rfl⟩

/-- Sameness of frames is kept by everything that a parser does. -/
theorem kept_sameFrame : Kept SameFrame where
  refl := .refl
  trans := .trans
  restore := sameFrame_restore
  fail := sameFrame_fail
  accept := sameFrame_accept
  not h := ⟨h.labels, by simp [h.suppress], h.depth⟩
  errorName _ h := ⟨by simp [h.labels], h.suppress, h.depth⟩
  call _ h := ⟨h.labels, h.suppress, Nat.sub_eq_of_eq_add h.depth⟩
  exit _ _ h := ⟨h.labels, h.suppress, Nat.sub_eq_of_eq_add h.depth⟩

end ParseState

namespace Step

open ParseState

/-- However the step ends, it leaves the labels, the lookaheads and the calls as they were. -/
def Balanced (step : Step) : Prop :=
  ∀ (s : ParseState) (node : ParseTree), s.SameFrame (step s node).state

end Step

namespace Interpreter

/-- Every operation leaves the frame as it was if its operands do. -/
theorem compositional_balanced (e : Setting) (program : Program) :
    Compositional e program fun _ step => step.Balanced :=
  compositional_keeps ParseState.kept_sameFrame e program

end Interpreter

end Peg
