import Peg.Parse.Machine

/-!
# Single steps

Where a step leaves the cursor, and what the turns of a loop and the call of a rule come down to
once it is known how the body ends.
-/

namespace Peg

namespace ParseState

/-- The state in which the body of a rule starts. -/
def enterRule (s : ParseState) (name : String) : ParseState :=
  { s.emit (.enter name s.position) with depth := s.depth + 1 }

/-- The state behind the body of a rule. -/
def exitRule (s : ParseState) (name : String) (matched : Bool) : ParseState :=
  { s.emit (.exit name s.position matched) with depth := s.depth - 1 }

/-- The cursor goes where it is put. -/
@[simp] theorem position_restore (s : ParseState) (target : Nat) :
    (s.restore target).position = target := by
  unfold restore
  split
  next h => exact h
  · rfl

/-- A failure does not move the cursor. -/
@[simp] theorem position_fail (s : ParseState) (natural : String) :
    (s.fail natural).position = s.position := by
  simp only [fail]
  split
  · rfl
  · rfl

/-- Accepting input moves the cursor behind it. -/
@[simp] theorem position_accept (s : ParseState) (stop : Nat) :
    (s.accept stop).position = stop := rfl

/-- Moving the cursor back leaves the record of failures. -/
@[simp] theorem failure_restore (s : ParseState) (target : Nat) :
    (s.restore target).failure = s.failure := by
  unfold restore
  split
  · rfl
  · rfl

/-- Moving the cursor back starts and ends no lookahead. -/
@[simp] theorem suppress_restore (s : ParseState) (target : Nat) :
    (s.restore target).suppress = s.suppress := by
  unfold restore
  split
  · rfl
  · rfl

/-- The entry into a rule does not move the cursor. -/
@[simp] theorem position_enterRule (s : ParseState) (name : String) :
    (s.enterRule name).position = s.position := rfl

/-- The exit from a rule does not move the cursor. -/
@[simp] theorem position_exitRule (s : ParseState) (name : String) (matched : Bool) :
    (s.exitRule name matched).position = s.position := rfl

end ParseState

namespace Step

/-- A loop may go on exactly if the number of its turns is below every maximum. -/
theorem mayContinue_eq_true_iff {max : Option Nat} {count : Nat} :
    mayContinue max count = true ↔ ∀ m ∈ max, count < m := by
  cases max with
  | none => simp [mayContinue]
  | some m => simp [mayContinue]

/-- A loop has to stop exactly if the number of its turns has reached a maximum. -/
theorem mayContinue_eq_false_iff {max : Option Nat} {count : Nat} :
    mayContinue max count = false ↔ ∃ m ∈ max, m ≤ count := by
  cases max with
  | none => simp [mayContinue]
  | some m => simp [mayContinue]

section Loop

variable {max : Option Nat} {body : Step} {fuel count : Nat} {s : ParseState} {node : ParseTree}

/-- A loop with the maximal number of turns stops. -/
theorem loop_of_full (h : mayContinue max count = false) :
    loop max body (fuel + 1) count s node = ⟨none, count, s, node⟩ := by
  simp [loop, h]

/-- An error in the body ends the loop. -/
theorem loop_of_halted {error : ParseError} (h : mayContinue max count = true)
    (hbody : (body s .empty).verdict = .halted error) :
    loop max body (fuel + 1) count s node =
      ⟨some error, count, (body s .empty).state, node⟩ := by
  simp [loop, h, hbody]

/-- A failure of the body ends the loop in front of the body. -/
theorem loop_of_failed (h : mayContinue max count = true)
    (hbody : (body s .empty).verdict = .failed) :
    loop max body (fuel + 1) count s node =
      ⟨none, count, (body s .empty).state.restore s.position, node⟩ := by
  simp [loop, h, hbody]

/-- A turn without progress counts and ends the loop. -/
theorem loop_of_idle (h : mayContinue max count = true)
    (hbody : (body s .empty).verdict = .matched)
    (hidle : (body s .empty).state.position = s.position) :
    loop max body (fuel + 1) count s node =
      ⟨none, count + 1, (body s .empty).state, node.splice (body s .empty).node⟩ := by
  simp [loop, h, hbody, hidle]

/-- A turn with progress counts and is followed by the rest of the loop. -/
theorem loop_of_further (h : mayContinue max count = true)
    (hbody : (body s .empty).verdict = .matched)
    (hfurther : (body s .empty).state.position ≠ s.position) :
    loop max body (fuel + 1) count s node =
      loop max body fuel (count + 1) (body s .empty).state
        (node.splice (body s .empty).node) := by
  simp [loop, h, hbody, hfurther]

end Loop

section Call

variable {e : Setting} {name : String} {capture : Bool} {body : Step} {s : ParseState}
  {node : ParseTree}

/-- A call beyond the allowed nesting halts. -/
theorem call_of_le (h : e.limit ≤ s.depth) :
    call e name capture body s node = ⟨.halted (.recursionLimitExceeded e.limit), s, node⟩ := by
  simp [call, h]

/-- Any other call ends as the body of the rule ends, one level below. -/
theorem call_of_lt (h : s.depth < e.limit) :
    call e name capture body s node =
      let r := body (s.enterRule name) (.ofRule name s.position)
      let child := { r.node with stop := r.state.position }
      match r.verdict with
      | .halted error => ⟨.halted error, { r.state with depth := r.state.depth - 1 }, node⟩
      | .failed => ⟨.failed, (r.state.exitRule name false).restore s.position, node⟩
      | .matched =>
        ⟨.matched, r.state.exitRule name true,
          if capture then node.addChild child else node.splice child⟩ := by
  rw [call, if_neg (Nat.not_le.mpr h)]
  rfl

end Call

end Step

end Peg
