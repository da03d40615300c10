import Peg.Proofs.Parse.Boundaries
import Peg.Proofs.Parse.Silence
import Peg.Proofs.Parse.Termination

/-!
# Repetitions unrolled

A repetition does what its body does so many times in sequence, and then up to so many further
times. The loop counts a match without progress once and goes on no further, though in a sequence
the body could match there again and again. So the two differ in one case: the body stops making
progress before the minimum is reached, and the repetition fails.
-/

namespace Peg

open Peg.Text ParseState

/-- The outcomes have the same verdict and, unless they are failures, the same place. -/
structure Outcome.EndsLike (o o' : Outcome) : Prop where
  verdict : o'.verdict = o.verdict
  place : o.verdict ≠ .failed → o.state.SamePlace o'.state

/-- Outcomes that end like the same one end alike. -/
theorem Outcome.EndsLike.trans {o o' o'' : Outcome} (h : o.EndsLike o') (h' : o'.EndsLike o'') :
    o.EndsLike o'' where
  verdict := h'.verdict.trans h.verdict
  place hends := (h.place hends).trans (h'.place (h.verdict ▸ hends))

namespace Step

/-- Match without doing anything. -/
def succeed : Step := fun s node =>
  ⟨.matched, s, node⟩

/-- Match the body as often as possible, up to a number of times. -/
def upTo (body : Step) : (further : Nat) → Step
  | 0 => succeed
  | further + 1 => choice (sequence body (upTo body further)) succeed

/-- Match the body a number of times in sequence, and then as often as possible, up to a number of
further times. -/
def unrolled (body : Step) (further : Nat) : (times : Nat) → Step
  | 0 => upTo body further
  | times + 1 => sequence body (unrolled body further times)

/-- Of so many applications of the body, one behind the other, one matches without progress, and all
those in front of it match. -/
def Stalls (body : Step) : Nat → ParseState → Prop
  | 0, _ => False
  | n + 1, s => (body s .empty).verdict = .matched ∧
      ((body s .empty).state.position = s.position ∨ Stalls body n (body s .empty).state)

section Operations

variable {left right : Step} {s : ParseState} {node : ParseTree}

/-- Behind a match of its first part, a sequence ends like its second part. -/
theorem sequence_of_matched (h : (left s .empty).verdict = .matched) :
    (right (left s .empty).state (left s .empty).node).EndsLike (sequence left right s node) := by
  simp only [sequence, h]
  split
  next hverdict => exact ⟨hverdict.symm, fun _ => .refl _⟩
  next hverdict => exact ⟨hverdict.symm, fun hends => absurd hverdict hends⟩
  next hverdict => exact ⟨hverdict.symm, fun _ => .refl _⟩

/-- Without a match of its first part, a sequence ends like this part. -/
theorem sequence_of_ne_matched (h : (left s .empty).verdict ≠ .matched) :
    (left s .empty).EndsLike (sequence left right s node) := by
  simp only [sequence]
  split
  next hverdict => exact ⟨hverdict.symm, fun _ => .refl _⟩
  next hverdict => exact ⟨hverdict.symm, fun hends => absurd hverdict hends⟩
  next hverdict => exact absurd hverdict h

/-- Without a failure of its first alternative, a choice ends like this alternative. -/
theorem choice_of_ne_failed (h : (left s .empty).verdict ≠ .failed) :
    (left s .empty).EndsLike (choice left right s node) := by
  simp only [choice]
  split
  next hverdict => exact ⟨hverdict.symm, fun _ => .refl _⟩
  next hverdict => exact ⟨hverdict.symm, fun _ => .refl _⟩
  next hverdict => exact absurd hverdict h

/-- To succeed where another step has failed comes down to succeeding at once. -/
theorem choice_succeed_of_failed (hleft : left.Balanced) (h : (left s .empty).verdict = .failed) :
    (succeed s node).EndsLike (choice left succeed s node) := by
  simp only [choice, h, succeed]
  exact ⟨rfl, fun _ => (hleft s .empty).samePlace_restore⟩

variable {min count : Nat} {start : ParseState} {outer : ParseTree}

/-- A loop with enough turns matches, with the output of its turns. -/
theorem close_of_le (h : min ≤ count) :
    (LoopOutcome.mk none count s node).close min start outer =
      ⟨.matched, s, outer.splice node⟩ :=
  if_neg (Nat.not_lt.mpr h)

/-- A loop with too few turns fails and puts the cursor back. -/
theorem close_of_lt (h : count < min) :
    (LoopOutcome.mk none count s node).close min start outer =
      ⟨.failed, s.restore start.position, outer⟩ :=
  if_pos h

end Operations

/-- Doing nothing is atomic. -/
theorem atomic_succeed : succeed.Atomic where
  balanced s _ := .refl s
  effect s := ⟨.matched s "" [], fun node => by simp [succeed, Effect.on], Nat.le_refl _⟩

section Turns

variable {body : Step} {s : ParseState} {node : ParseTree} {further times : Nat}

/-- Matching up to a number of times is atomic if the body is. -/
theorem Atomic.upTo (h : body.Atomic) (further : Nat) : (Step.upTo body further).Atomic := by
  induction further with
  | zero => exact atomic_succeed
  | succ further ih => exact (h.sequence ih).choice atomic_succeed

/-- An unrolled repetition is atomic if its body is. -/
theorem Atomic.unrolled (h : body.Atomic) (further times : Nat) :
    (Step.unrolled body further times).Atomic := by
  induction times with
  | zero => exact h.upTo further
  | succ times ih => exact h.sequence ih

/-- A body that is not required to match is no reason to fail. -/
theorem upTo_ne_failed (body : Step) (further : Nat) (s : ParseState) (node : ParseTree) :
    (upTo body further s node).verdict ≠ .failed := by
  cases further with
  | zero => simp [upTo, succeed]
  | succ further =>
    simp only [upTo, choice, succeed]
    split <;> simp

/-- Where the body halts, so does the row of optional turns. -/
theorem upTo_of_halted {error : ParseError} (h : (body s .empty).verdict = .halted error) :
    (body s .empty).EndsLike (upTo body (further + 1) s node) := by
  have hturn : (body s .empty).EndsLike (sequence body (upTo body further) s .empty) :=
    sequence_of_ne_matched (by simp [h])
  exact hturn.trans (choice_of_ne_failed (by simp [hturn.verdict, h]))

/-- Where the body fails, the row of optional turns ends without doing anything. -/
theorem upTo_of_failed (hbody : body.Atomic) (h : (body s .empty).verdict = .failed) :
    (succeed s node).EndsLike (upTo body (further + 1) s node) := by
  have hturn : (body s .empty).EndsLike (sequence body (upTo body further) s .empty) :=
    sequence_of_ne_matched (by simp [h])
  exact choice_succeed_of_failed (hbody.sequence (hbody.upTo further)).balanced
    (hturn.verdict.trans h)

/-- Behind a match of the body, the row of optional turns goes on with one turn less. -/
theorem upTo_of_matched (h : (body s .empty).verdict = .matched) :
    (upTo body further (body s .empty).state (body s .empty).node).EndsLike
      (upTo body (further + 1) s node) := by
  have hturn : (upTo body further (body s .empty).state (body s .empty).node).EndsLike
      (sequence body (upTo body further) s .empty) := sequence_of_matched h
  refine hturn.trans (choice_of_ne_failed ?_)
  rw [hturn.verdict]
  exact upTo_ne_failed body further _ _

/-- Where a body matches so many times in sequence, further turns are no reason to fail. -/
theorem unrolled_ne_failed {node' : ParseTree}
    (h : (unrolled body 0 times s node).verdict = .matched) (further : Nat) :
    (unrolled body further times s node').verdict ≠ .failed := by
  induction times generalizing s node node' with
  | zero => exact upTo_ne_failed body further s node'
  | succ times ih =>
    by_cases hfirst : (body s .empty).verdict = .matched
    · rw [unrolled, (sequence_of_matched hfirst).verdict] at h ⊢
      exact ih h
    · rw [unrolled, (sequence_of_ne_matched hfirst).verdict] at h
      exact absurd h hfirst

end Turns

/-- The place where the step starts determines how it ends, and at which place. A match ends at a
boundary of the input. -/
structure Steady (e : Setting) (step : Step) : Prop where
  atomic : step.Atomic
  lands : step.Lands e
  lockstep : Lockstep (fun _ => False) SamePlace step step

namespace Steady

variable {e : Setting} {body : Step} {s s' : ParseState}

/-- From the same place, the step ends in the same way at the same place. -/
theorem again (h : body.Steady e) (hs : s.SamePlace s') :
    (body s' .empty).verdict = (body s .empty).verdict ∧
      (body s .empty).state.SamePlace (body s' .empty).state := by
  rcases h.lockstep s s' .empty hs with ⟨_, hnever, _⟩ | halike
  · exact hnever.elim
  · exact ⟨halike.verdict, halike.state⟩

/-- A match without progress ends at the place where it starts. -/
theorem samePlace_of_idle (h : body.Steady e)
    (hidle : (body s .empty).state.position = s.position) :
    s.SamePlace (body s .empty).state :=
  ⟨hidle, (h.atomic.balanced s .empty).depth⟩

/-- A match that makes progress leaves less of the input ahead. -/
theorem ahead_lt (h : body.Steady e) {fuel : Nat} (hs : isBoundary e.input s.position = true)
    (hmatched : (body s .empty).verdict = .matched)
    (hfurther : (body s .empty).state.position ≠ s.position)
    (hfuel : byteLength e.input - s.position < fuel + 1) :
    byteLength e.input - (body s .empty).state.position < fuel := by
  have hinside := le_byteLength_of_isBoundary (h.lands s .empty hs hmatched)
  have hforward := h.atomic.position_le hmatched
  omega

section Idle

/-- Behind a match without progress, any number of further turns comes to nothing. -/
theorem upTo_of_idle (h : body.Steady e) (hmatched : (body s .empty).verdict = .matched)
    (hidle : s.SamePlace (body s .empty).state) (hs : (body s .empty).state.SamePlace s')
    (further : Nat) (node node' : ParseTree) :
    (succeed (body s .empty).state node).EndsLike (upTo body further s' node') := by
  induction further generalizing s' node' with
  | zero => exact ⟨rfl, fun _ => hs⟩
  | succ further ih =>
    obtain ⟨hverdict, hplace⟩ := h.again (hidle.trans hs)
    exact (ih hplace _).trans (upTo_of_matched (hverdict.trans hmatched))

/-- Behind a turn without progress, all further turns are without progress too. -/
theorem unrolled_of_idle (h : body.Steady e) (hmatched : (body s .empty).verdict = .matched)
    (hidle : s.SamePlace (body s .empty).state) (hs : (body s .empty).state.SamePlace s')
    (further times : Nat) (node node' : ParseTree) :
    (succeed (body s .empty).state node).EndsLike (unrolled body further times s' node') := by
  induction times generalizing s' node' with
  | zero => exact h.upTo_of_idle hmatched hidle hs further node node'
  | succ times ih =>
    obtain ⟨hverdict, hplace⟩ := h.again (hidle.trans hs)
    exact (ih hplace _).trans (sequence_of_matched (hverdict.trans hmatched))

/-- Where the body stalls, it matches any greater number of times in sequence. -/
theorem unrolled_of_stalls (h : body.Steady e) {n : Nat} (hstalls : body.Stalls n s)
    (hs : s.SamePlace s') (further : Nat) {times : Nat} (hn : n < times) (node : ParseTree) :
    (unrolled body further times s' node).verdict = .matched := by
  induction n generalizing s s' times node with
  | zero => exact hstalls.elim
  | succ n ih =>
    obtain ⟨times, rfl⟩ := Nat.exists_eq_succ_of_ne_zero (Nat.ne_zero_of_lt hn)
    obtain ⟨hmatched, hrest⟩ := hstalls
    obtain ⟨hverdict, hplace⟩ := h.again hs
    rw [unrolled, (sequence_of_matched (hverdict.trans hmatched)).verdict]
    rcases hrest with hidle | hrest
    · exact (h.unrolled_of_idle hmatched (h.samePlace_of_idle hidle) hplace further times .empty
        _).verdict
    · exact ih hrest hplace (Nat.lt_of_succ_lt_succ hn) _

end Idle

section Loop

variable {min max fuel count further times : Nat}

/-- A loop that has taken enough turns for the minimum ends as the body does in up to so many
further turns. -/
theorem loop_endsLike_upTo (h : body.Steady e) (hmin : min ≤ count) (hmax : max = count + further)
    (hs : isBoundary e.input s.position = true) (hfuel : byteLength e.input - s.position < fuel)
    (hplace : s.SamePlace s') (start : ParseState) (node outer node' : ParseTree) :
    ((loop (some max) body fuel count s node).close min start outer).EndsLike
      (upTo body further s' node') := by
  induction further generalizing fuel count s s' node node' with
  | zero =>
    obtain ⟨fuel, rfl⟩ := Nat.exists_eq_succ_of_ne_zero (Nat.ne_zero_of_lt hfuel)
    rw [loop_of_full (mayContinue_eq_false_iff.mpr ⟨max, rfl, by omega⟩), close_of_le hmin]
    exact ⟨rfl, fun _ => hplace⟩
  | succ further ih =>
    obtain ⟨fuel, rfl⟩ := Nat.exists_eq_succ_of_ne_zero (Nat.ne_zero_of_lt hfuel)
    have hmore : mayContinue (some max) count = true :=
      mayContinue_eq_true_iff.mpr (by simp; omega)
    obtain ⟨hverdict', hplace'⟩ := h.again hplace
    cases hverdict : (body s .empty).verdict with
    | halted error =>
      rw [loop_of_halted hmore hverdict]
      refine .trans ?_ (upTo_of_halted (hverdict'.trans hverdict))
      exact ⟨hverdict'.trans hverdict, fun _ => hplace'⟩
    | failed =>
      have hback := (h.atomic.balanced s .empty).samePlace_restore
      rw [loop_of_failed hmore hverdict, close_of_le hmin]
      refine .trans ?_ (upTo_of_failed h.atomic (hverdict'.trans hverdict))
      exact ⟨rfl, fun _ => hback.symm.trans hplace⟩
    | matched =>
      refine .trans ?_ (upTo_of_matched (hverdict'.trans hverdict))
      by_cases hidle : (body s .empty).state.position = s.position
      · rw [loop_of_idle hmore hverdict hidle, close_of_le (Nat.le_succ_of_le hmin)]
        exact h.upTo_of_idle hverdict (h.samePlace_of_idle hidle) hplace' further _ _
      · rw [loop_of_further hmore hverdict hidle]
        exact ih (Nat.le_succ_of_le hmin) (by omega) (h.lands s .empty hs hverdict)
          (h.ahead_lt hs hverdict hidle hfuel) hplace' _ _

/-- A loop ends as the body does in the turns that are missing to the minimum, one behind the other,
and then in up to so many further ones. None of them may stall, but the last one before the minimum
is reached. -/
theorem loop_endsLike_unrolled (h : body.Steady e) (hmin : min = count + times)
    (hmax : max = min + further) (hstalls : ¬ body.Stalls (times - 1) s)
    (hs : isBoundary e.input s.position = true) (hfuel : byteLength e.input - s.position < fuel)
    (hplace : s.SamePlace s') (start : ParseState) (node outer node' : ParseTree) :
    ((loop (some max) body fuel count s node).close min start outer).EndsLike
      (unrolled body further times s' node') := by
  induction times generalizing fuel count s s' node node' with
  | zero =>
    exact h.loop_endsLike_upTo (Nat.le_of_eq hmin) (by omega) hs hfuel hplace start node outer node'
  | succ times ih =>
    obtain ⟨fuel, rfl⟩ := Nat.exists_eq_succ_of_ne_zero (Nat.ne_zero_of_lt hfuel)
    have hmore : mayContinue (some max) count = true :=
      mayContinue_eq_true_iff.mpr (by simp; omega)
    obtain ⟨hverdict', hplace'⟩ := h.again hplace
    rw [unrolled]
    cases hverdict : (body s .empty).verdict with
    | halted error =>
      rw [loop_of_halted hmore hverdict]
      refine .trans ?_ (sequence_of_ne_matched (by simp [hverdict', hverdict]))
      exact ⟨hverdict'.trans hverdict, fun _ => hplace'⟩
    | failed =>
      rw [loop_of_failed hmore hverdict, close_of_lt (by omega)]
      refine .trans ?_ (sequence_of_ne_matched (by simp [hverdict', hverdict]))
      exact ⟨hverdict'.trans hverdict, fun hends => absurd rfl hends⟩
    | matched =>
      refine .trans ?_ (sequence_of_matched (hverdict'.trans hverdict))
      by_cases hidle : (body s .empty).state.position = s.position
      · -- Only the last turn that is missing to the minimum may be without progress.
        cases times with
        | succ times => exact absurd ⟨hverdict, .inl hidle⟩ hstalls
        | zero =>
          rw [loop_of_idle hmore hverdict hidle, close_of_le (Nat.le_of_eq hmin)]
          exact h.upTo_of_idle hverdict (h.samePlace_of_idle hidle) hplace' further _ _
      · rw [loop_of_further hmore hverdict hidle]
        refine ih (by omega) ?_ (h.lands s .empty hs hverdict)
          (h.ahead_lt hs hverdict hidle hfuel) hplace' _ _
        cases times with
        | zero => exact id
        | succ times => exact fun hrest => hstalls ⟨hverdict, .inr hrest⟩

end Loop

end Steady

/-- A loop whose body stalls ends with at most as many turns. -/
theorem loop_of_stalls {max : Option Nat} {body : Step} {n : Nat} {s : ParseState}
    (hstalls : body.Stalls n s) (fuel count : Nat) (node : ParseTree) :
    (loop max body fuel count s node).error? = none ∧
      (loop max body fuel count s node).count ≤ count + n := by
  induction n generalizing fuel count s node with
  | zero => exact hstalls.elim
  | succ n ih =>
    obtain ⟨hmatched, hrest⟩ := hstalls
    cases fuel with
    | zero => exact ⟨rfl, Nat.le_add_right _ _⟩
    | succ fuel =>
      cases hmore : mayContinue max count with
      | false =>
        rw [loop_of_full hmore]
        exact ⟨rfl, Nat.le_add_right _ _⟩
      | true =>
        by_cases hidle : (body s .empty).state.position = s.position
        · rw [loop_of_idle hmore hmatched hidle]
          exact ⟨rfl, by dsimp only; omega⟩
        · rw [loop_of_further hmore hmatched hidle]
          obtain ⟨hends, hcount⟩ := ih (hrest.resolve_left hidle) fuel (count + 1)
            (node.splice (body s .empty).node)
          exact ⟨hends, by omega⟩

/-- A maximum that a loop has no room to reach is none. -/
theorem loop_none_eq_some (body : Step) {max fuel count : Nat} (h : count + fuel ≤ max)
    (s : ParseState) (node : ParseTree) :
    loop none body fuel count s node = loop (some max) body fuel count s node := by
  induction fuel generalizing count s node with
  | zero => rfl
  | succ fuel ih =>
    have hrest : ∀ s node, loop none body fuel (count + 1) s node =
        loop (some max) body fuel (count + 1) s node := ih (by omega)
    have hnone : mayContinue none count = true := rfl
    have hmore : mayContinue (some max) count = true :=
      mayContinue_eq_true_iff.mpr (by simp; omega)
    simp only [loop, hrest, hnone, hmore]

/-- The step does what a parser does: it runs a routine, or it evaluates a combinator of a
program. -/
def OfParser (e : Setting) (step : Step) : Prop :=
  (∃ routine : Routine, step = routine.run e) ∨
    ∃ (program : Program) (budget : Nat) (c : Combinator),
      step = Interpreter.eval e (Interpreter.call e program budget) c

/-- Whatever a parser does is steady. -/
theorem OfParser.steady {e : Setting} {step : Step} (h : step.OfParser e) : step.Steady e := by
  rcases h with ⟨routine, rfl⟩ | ⟨program, budget, c, rfl⟩
  · exact ⟨routine.atomic_run e, routine.lands_run e,
      routine.lockstep_run correspondence_samePlace e⟩
  · have hcall : ∀ id, Lockstep (fun _ => False) SamePlace
        (Interpreter.call e program budget id) (Interpreter.call e program budget id) := fun id =>
      Interpreter.lockstep_call e program correspondence_samePlace (.inl ⟨rfl, rfl⟩) id
    exact ⟨(Interpreter.backtracking_atomic e).2 program budget c,
      Interpreter.lands_eval e program budget c,
      Interpreter.lockstep_eval_of_callee e e.limit correspondence_samePlace hcall c⟩

section Repetition

variable {e : Setting} {body : Step} {min max : Nat} {bound : Option Nat} {s : ParseState}

/-- Any maximum that is greater than the number of bytes ahead is as good as none. -/
theorem repetition_eq_some (body : Step) (min : Nat)
    (hbound : bound = some max ∨ bound = none ∧ byteLength e.input - s.position < max)
    (node : ParseTree) :
    repetition e min bound body s node = repetition e min (some max) body s node := by
  rcases hbound with rfl | ⟨rfl, hmax⟩
  · rfl
  · have hroom : 0 + (byteLength e.input - s.position + 1) ≤ max := by omega
    rw [repetition_eq_close, repetition_eq_close, loop_none_eq_some body hroom]

/-- A repetition whose body stalls before the last turn that it needs has too few turns. -/
theorem repetition_of_stalls (e : Setting) (bound : Option Nat) (h : body.Stalls (min - 1) s)
    (node : ParseTree) : (repetition e min bound body s node).verdict = .failed := by
  cases min with
  | zero => exact h.elim
  | succ min =>
    have hloop : ∀ fuel, (loop bound body fuel 0 s .empty).error? = none ∧
        (loop bound body fuel 0 s .empty).count < min + 1 := fun fuel => by
      obtain ⟨hends, hcount⟩ := loop_of_stalls h fuel 0 .empty
      exact ⟨hends, by simpa using Nat.lt_succ_of_le hcount⟩
    simp [repetition, hloop]

/-- A repetition ends like its unrolled form unless a turn without progress comes before the last
one that is needed. -/
theorem Steady.repetition_endsLike (h : body.Steady e) (hle : min ≤ max)
    (hbound : bound = some max ∨ bound = none ∧ byteLength e.input - s.position < max)
    (hs : isBoundary e.input s.position = true) (hstalls : ¬ body.Stalls (min - 1) s)
    (node : ParseTree) :
    (repetition e min bound body s node).EndsLike (unrolled body (max - min) min s node) := by
  rw [repetition_eq_some body min hbound, repetition_eq_close]
  exact h.loop_endsLike_unrolled (Nat.zero_add min).symm (by omega) hstalls hs
    (Nat.lt_succ_self _) (.refl s) s .empty node node

/-- A repetition ends as its body does when it is applied as often as the minimum says, one
application behind the other, and then up to so many further times as the maximum leaves, unless the
body stalls before the last application that the minimum asks for. In that case the repetition
fails, though the applications would all match. If there is no maximum then any number that is
greater than that of the bytes ahead may stand for it. The cursor starts between two characters, as
it does throughout a parse. -/
theorem repetition_unrolls (hbody : body.OfParser e) (hle : min ≤ max)
    (hbound : bound = some max ∨ bound = none ∧ byteLength e.input - s.position < max)
    (hs : isBoundary e.input s.position = true) (node : ParseTree) :
    let repeated := repetition e min bound body s node
    let applied := unrolled body (max - min) min s node
    (¬ body.Stalls (min - 1) s → repeated.verdict = applied.verdict ∧
        repeated.state.position = applied.state.position) ∧
      (body.Stalls (min - 1) s → repeated.verdict = .failed ∧ applied.verdict = .matched) ∧
      ((unrolled body 0 min s node).verdict = .matched →
        (repeated.verdict = .failed ↔ body.Stalls (min - 1) s)) := by
  intro repeated applied
  have hsteady := hbody.steady
  have halike : ¬ body.Stalls (min - 1) s → repeated.EndsLike applied := fun hstalls =>
    hsteady.repetition_endsLike hle hbound hs hstalls node
  have hfails : body.Stalls (min - 1) s → repeated.verdict = .failed := fun hstalls =>
    repetition_of_stalls e bound hstalls node
  refine ⟨fun hstalls => ⟨(halike hstalls).verdict.symm, ?_⟩,
    fun hstalls => ⟨hfails hstalls, ?_⟩, fun hmatched => ⟨fun hfailed => ?_, hfails⟩⟩
  · by_cases hfailed : repeated.verdict = .failed
    · have happlied : applied.verdict = .failed := (halike hstalls).verdict.trans hfailed
      exact ((hsteady.atomic.repetition e min bound).position_of_failed hfailed).trans
        ((hsteady.atomic.unrolled _ min).position_of_failed happlied).symm
    · exact ((halike hstalls).place hfailed).position.symm
  · cases min with
    | zero => exact hstalls.elim
    | succ min => exact hsteady.unrolled_of_stalls hstalls (.refl s) _ (Nat.lt_succ_self min) node
  · by_contra hstalls
    exact unrolled_ne_failed hmatched _ ((halike hstalls).verdict.trans hfailed)

end Repetition

/-- An optional letter. -/
def optionalX : Routine :=
  .repetition 0 (some 1) (.literal "x")

/-- A run over an input, without patterns. -/
def plain (input : String) : Setting :=
  ⟨input.toList, .empty, defaultLimit⟩

/-- At the end of the input an optional letter matches twice in sequence, but not in a repetition
that asks for two matches. -/
theorem optionalX_not_repeated :
    OfParser (plain "") (optionalX.run (plain "")) ∧
      isBoundary (plain "").input ParseState.initial.position = true ∧
      (unrolled (optionalX.run (plain "")) (2 - 2) 2 .initial .empty).verdict = .matched ∧
      (repetition (plain "") 2 (some 2) (optionalX.run (plain "")) .initial .empty).verdict =
        .failed :=
  ⟨.inl ⟨optionalX, rfl⟩, rfl, rfl, rfl⟩

/-- In front of one letter, an optional letter makes no progress the second time only. So a
repetition that asks for two matches ends as two matches in sequence do. -/
theorem optionalX_repeated :
    OfParser (plain "x") (optionalX.run (plain "x")) ∧
      isBoundary (plain "x").input ParseState.initial.position = true ∧
      ¬ Stalls (optionalX.run (plain "x")) (2 - 1) .initial ∧
      (repetition (plain "x") 2 (some 3) (optionalX.run (plain "x")) .initial .empty).verdict =
        .matched ∧
      (repetition (plain "x") 2 (some 3) (optionalX.run (plain "x")) .initial .empty).state.position
        = 1 := by
  have hbody : OfParser (plain "x") (optionalX.run (plain "x")) := .inl ⟨optionalX, rfl⟩
  have hboundary : isBoundary (plain "x").input ParseState.initial.position = true := rfl
  have hstalls : ¬ Stalls (optionalX.run (plain "x")) (2 - 1) .initial := by
    rintro ⟨_, hidle | hnone⟩
    · exact absurd hidle (by decide)
    · exact hnone
  obtain ⟨hverdict, hposition⟩ :=
    (repetition_unrolls hbody (by decide : 2 ≤ 3) (.inl rfl) hboundary .empty).1 hstalls
  exact ⟨hbody, hboundary, hstalls, hverdict.trans rfl, hposition.trans rfl⟩

end Step

end Peg
