import Peg.Proofs.Parse.Program
import Peg.Proofs.Parse.PatternTable
import Peg.Proofs.Regex.MatchEnd
import Peg.Parse.PatternTable

/-!
# What a combinator recognises

The meaning of combinators as parsing expressions, without a machine, a tree or a bound on nested
calls. At an offset of an input a combinator either matches up to some offset or fails, or, as with
left recursion, does neither.
-/

namespace Peg

open Peg.Text

/-- The turns of a loop whose body answers as `R` says. With `count` turns behind it the loop stands
at an offset, and in the end there are `total` turns and the loop stands at `stop`. A turn without
progress counts and is the last one. -/
inductive Turns (R : Nat → Option Nat → Prop) (max : Option Nat) :
    (count start total stop : Nat) → Prop where
  | full {count i : Nat} : (∃ m ∈ max, m ≤ count) → Turns R max count i count i
  | failed {count i : Nat} : (∀ m ∈ max, count < m) → R i none → Turns R max count i count i
  | idle {count i : Nat} : (∀ m ∈ max, count < m) → R i (some i) →
      Turns R max count i (count + 1) i
  | further {count i j total k : Nat} : (∀ m ∈ max, count < m) → R i (some j) → j ≠ i →
      Turns R max (count + 1) j total k → Turns R max count i total k

/-- The answer of a combinator at an offset of the input: the offset up to which it matches, or
nothing if it fails. In a repetition `R` stands for answers of the body. -/
inductive Recognizes (program : Program) (patterns : PatternTable) (input : List Char) :
    Combinator → Nat → Option Nat → Prop where
  | literal {text : String} {i : Nat} : text.toList <+: dropBytes input i →
      Recognizes program patterns input (.literal text) i (some (i + byteLength text.toList))
  | literalFails {text : String} {i : Nat} : ¬ text.toList <+: dropBytes input i →
      Recognizes program patterns input (.literal text) i none
  | pattern {source : String} {times id i : Nat} {r : Option Nat} :
      patterns.indexOf? source times = some id → patterns.matchAt id input i = .ok r →
      Recognizes program patterns input (.pattern source times) i r
  | sequence {left right : Combinator} {i j : Nat} {r : Option Nat} :
      Recognizes program patterns input left i (some j) →
      Recognizes program patterns input right j r →
      Recognizes program patterns input (.sequence left right) i r
  | sequenceFails {left right : Combinator} {i : Nat} :
      Recognizes program patterns input left i none →
      Recognizes program patterns input (.sequence left right) i none
  | choiceLeft {left right : Combinator} {i j : Nat} :
      Recognizes program patterns input left i (some j) →
      Recognizes program patterns input (.choice left right) i (some j)
  | choiceRight {left right : Combinator} {i : Nat} {r : Option Nat} :
      Recognizes program patterns input left i none →
      Recognizes program patterns input right i r →
      Recognizes program patterns input (.choice left right) i r
  | repetition {min : Nat} {max : Option Nat} {body : Combinator} {i total j : Nat}
      {R : Nat → Option Nat → Prop} :
      (∀ {i r}, R i r → Recognizes program patterns input body i r) →
      Turns R max 0 i total j → min ≤ total →
      Recognizes program patterns input (.repetition min max body) i (some j)
  | repetitionFails {min : Nat} {max : Option Nat} {body : Combinator} {i total j : Nat}
      {R : Nat → Option Nat → Prop} :
      (∀ {i r}, R i r → Recognizes program patterns input body i r) →
      Turns R max 0 i total j → total < min →
      Recognizes program patterns input (.repetition min max body) i none
  | not {body : Combinator} {i : Nat} : Recognizes program patterns input body i none →
      Recognizes program patterns input (.not body) i (some i)
  | notFails {body : Combinator} {i j : Nat} :
      Recognizes program patterns input body i (some j) →
      Recognizes program patterns input (.not body) i none
  | drop {body : Combinator} {i : Nat} {r : Option Nat} :
      Recognizes program patterns input body i r →
      Recognizes program patterns input (.drop body) i r
  | terminal {decode : Bool} {body : Combinator} {i : Nat} {r : Option Nat} :
      Recognizes program patterns input body i r →
      Recognizes program patterns input (.terminal decode body) i r
  | errorName {label : String} {promote : Bool} {body : Combinator} {i : Nat}
      {r : Option Nat} : Recognizes program patterns input body i r →
      Recognizes program patterns input (.errorName label promote body) i r
  | call {id : RuleId} {rule : Rule} {i : Nat} {r : Option Nat} :
      program.rule? id = some rule → Recognizes program patterns input rule.body i r →
      Recognizes program patterns input (.call id) i r

/-- The relation only relates boundaries of the input to boundaries at or behind them. -/
def Advances (input : List Char) (R : Nat → Option Nat → Prop) : Prop :=
  ∀ {i j : Nat}, R i (some j) → isBoundary input i = true → i ≤ j ∧ isBoundary input j = true

/-- A loop moves forward if its body does. -/
theorem Turns.advances {R : Nat → Option Nat → Prop} {max : Option Nat} {input : List Char}
    {count i total j : Nat} (h : Turns R max count i total j) (hR : Advances input R)
    (hi : isBoundary input i = true) : i ≤ j ∧ isBoundary input j = true := by
  induction h with
  | full => exact ⟨Nat.le_refl _, hi⟩
  | failed => exact ⟨Nat.le_refl _, hi⟩
  | idle => exact ⟨Nat.le_refl _, hi⟩
  | further _ hbody _ _ ih =>
    obtain ⟨hle, hj⟩ := hR hbody hi
    obtain ⟨hle', hk⟩ := ih hj
    exact ⟨Nat.le_trans hle hle', hk⟩

/-- The number of turns never falls below those that are behind the loop already. -/
theorem Turns.le_total {R : Nat → Option Nat → Prop} {max : Option Nat}
    {count i total j : Nat} (h : Turns R max count i total j) : count ≤ total := by
  induction h with
  | full => exact Nat.le_refl _
  | failed => exact Nat.le_refl _
  | idle => exact Nat.le_succ _
  | further _ _ _ _ ih => exact Nat.le_of_succ_le ih

/-- A loop whose body answers in more cases has at least the same runs. -/
theorem Turns.mono {R S : Nat → Option Nat → Prop} {max : Option Nat} {count i total j : Nat}
    (h : Turns R max count i total j) (hRS : ∀ {i r}, R i r → S i r) :
    Turns S max count i total j := by
  induction h with
  | full hmax => exact .full hmax
  | failed hmax hbody => exact .failed hmax (hRS hbody)
  | idle hmax hbody => exact .idle hmax (hRS hbody)
  | further hmax hbody hne _ ih => exact .further hmax (hRS hbody) hne ih

/-- Without a maximum, turns that were taken before do not matter. -/
theorem Turns.shift {R : Nat → Option Nat → Prop} {count i total j : Nat}
    (h : Turns R none count i total j) (n : Nat) : Turns R none (count + n) i (total + n) j := by
  have hmay : ∀ count, ∀ m ∈ (none : Option Nat), count < m := by simp
  induction h with
  | full hfull =>
    obtain ⟨m, hm, _⟩ := hfull
    cases hm
  | failed _ hbody => exact .failed (hmay _) hbody
  | idle _ hbody =>
    rw [Nat.add_right_comm]
    exact .idle (hmay _) hbody
  | further _ hbody hne _ ih =>
    rw [Nat.add_right_comm] at ih
    exact .further (hmay _) hbody hne ih

/-- A match starts and ends at boundaries of the input and never moves back. -/
theorem Recognizes.advances {program : Program} {patterns : PatternTable} {input : List Char}
    {c : Combinator} : Advances input (Recognizes program patterns input c) := by
  intro i j h hi
  generalize hr : some j = r at h
  induction h generalizing j with
  | literal hprefix =>
    obtain ⟨rest, hrest⟩ := hprefix
    cases hr
    exact ⟨Nat.le_add_right _ _, isBoundary_add_byteLength hi hrest.symm⟩
  | pattern _ hmatch =>
    subst hr
    obtain ⟨entry, _, hentry⟩ := PatternTable.matchAt_eq_ok_iff.mp hmatch
    exact Regex.Automaton.matchAt_stop hentry
  | sequence _ _ ihl ihr =>
    obtain ⟨hle, hj⟩ := ihl hi rfl
    obtain ⟨hle', hk⟩ := ihr hj hr
    exact ⟨Nat.le_trans hle hle', hk⟩
  | choiceLeft _ ih => exact ih hi hr
  | choiceRight _ _ _ ih => exact ih hi hr
  | repetition _ hturns _ ih =>
    cases hr
    exact hturns.advances (fun hbody hi => ih hbody hi rfl) hi
  | not =>
    cases hr
    exact ⟨Nat.le_refl _, hi⟩
  | drop _ ih => exact ih hi hr
  | terminal _ ih => exact ih hi hr
  | errorName _ ih => exact ih hi hr
  | call _ _ ih => exact ih hi hr
  | literalFails => cases hr
  | sequenceFails => cases hr
  | repetitionFails => cases hr
  | notFails => cases hr

section Loops

variable {program : Program} {patterns : PatternTable} {input : List Char} {body : Combinator}
  {min : Nat} {max : Option Nat} {i j k : Nat}

/-- A repetition matches where a loop over the answers of its body ends with enough turns. -/
theorem recognizes_repetition_iff :
    Recognizes program patterns input (.repetition min max body) i (some j) ↔
      ∃ total, Turns (Recognizes program patterns input body) max 0 i total j ∧ min ≤ total := by
  constructor
  · intro h
    cases h with
    | repetition hbody hturns hmin => exact ⟨_, hturns.mono hbody, hmin⟩
  · rintro ⟨total, hturns, hmin⟩
    exact .repetition id hturns hmin

/-- A repetition without a maximum ends where its body fails. -/
theorem Recognizes.zeroOrMore_ends (h : Recognizes program patterns input body i none) :
    Recognizes program patterns input body.zeroOrMore i (some i) :=
  .repetition id (.failed (by simp) h) (Nat.le_refl 0)

/-- A repetition without a maximum ends where its body makes no progress. -/
theorem Recognizes.repetition_idles (h : Recognizes program patterns input body i (some i))
    (hmin : min ≤ 1) :
    Recognizes program patterns input (.repetition min none body) i (some i) :=
  .repetition id (.idle (by simp) h) hmin

/-- A repetition without a maximum goes on behind a turn that makes progress. -/
theorem Recognizes.repetition_more (h : Recognizes program patterns input body i (some j))
    (hne : j ≠ i) (hrest : Recognizes program patterns input body.zeroOrMore j (some k))
    (hmin : min ≤ 1) :
    Recognizes program patterns input (.repetition min none body) i (some k) := by
  obtain ⟨total, hturns, _⟩ := recognizes_repetition_iff.mp hrest
  exact .repetition id (.further (by simp) h hne (hturns.shift 1)) (by omega)

/-- A repetition that needs a turn fails where its body does. -/
theorem Recognizes.oneOrMore_fails (h : Recognizes program patterns input body i none) :
    Recognizes program patterns input body.oneOrMore i none :=
  .repetitionFails id (.failed (by simp) h) Nat.one_pos

/-- An optional body matches what the body matches. -/
theorem Recognizes.optional_matches (h : Recognizes program patterns input body i (some j)) :
    Recognizes program patterns input body.optional i (some j) := by
  by_cases hne : j = i
  · subst hne
    exact .repetition id (.idle (by simp) h) (Nat.zero_le _)
  · exact .repetition id (.further (by simp) h hne (.full ⟨1, rfl, Nat.le_refl 1⟩)) (Nat.zero_le _)

/-- An optional body that does not match succeeds where it stands. -/
theorem Recognizes.optional_skips (h : Recognizes program patterns input body i none) :
    Recognizes program patterns input body.optional i (some i) :=
  .repetition id (.failed (by simp) h) (Nat.zero_le _)

end Loops

end Peg
