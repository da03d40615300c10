import Peg.Proofs.Parse.Silence
import Peg.Proofs.Parse.Succession

/-!
# Where a failed parse is reported

Each failure of a literal or a pattern is recorded, unless it belongs to a lookahead, and the record
is of the furthest one. A lookahead that fails leaves no record. So a failed parse is reported where
one of its leaves has failed or the input should have ended; but if nothing has failed other than
lookaheads then it is reported at the start of the input, wherever these have failed.
-/

namespace Peg

open Peg.Text Relation

namespace Interpreter

/-- An evaluation goes on with another one, and that is no part of a lookahead. -/
def Continues (e : Setting) (program : Program) (v w : Evaluation) : Prop :=
  ¬ v.combinator.IsLookahead ∧ Starts e program v w

/-- In the course of an evaluation, a combinator of the given kind fails at an offset, outside of
lookaheads. -/
def Evaluation.FailsAt (e : Setting) (program : Program) (kind : Combinator → Prop)
    (v : Evaluation) (p : Nat) : Prop :=
  ∃ w, ReflTransGen (Continues e program) v w ∧ kind w.combinator ∧
    (w.outcome e program).verdict = .failed ∧ w.state.position = p

variable {e : Setting} {program : Program} {kind : Combinator → Prop} {v w : Evaluation} {p : Nat}

/-- An evaluation that fails does so at the place of its start. -/
theorem Evaluation.FailsAt.here (hkind : kind v.combinator)
    (hfailed : (v.outcome e program).verdict = .failed) :
    v.FailsAt e program kind v.state.position :=
  ⟨v, .refl, hkind, hfailed, rfl⟩

/-- What fails in a later evaluation fails in the course of the earlier one. -/
theorem Evaluation.FailsAt.later (hstart : Continues e program v w)
    (h : w.FailsAt e program kind p) : v.FailsAt e program kind p := by
  obtain ⟨u, hu, hfails⟩ := h
  exact ⟨u, .head hstart hu, hfails⟩

/-- What fails as one of a kind fails as one of a wider kind. -/
theorem Evaluation.FailsAt.mono {kind' : Combinator → Prop} (h : v.FailsAt e program kind p)
    (hkind : ∀ c, kind c → kind' c) : v.FailsAt e program kind' p := by
  obtain ⟨w, hw, hself, hfails⟩ := h
  exact ⟨w, hw, hkind _ hself, hfails⟩

/-- What fails in the course of an evaluation is its own combinator, or else it fails in the course
of an evaluation that this one starts. -/
theorem Evaluation.FailsAt.cases (h : v.FailsAt e program kind p) :
    (kind v.combinator ∧ (v.outcome e program).verdict = .failed ∧ v.state.position = p) ∨
      ∃ w, Continues e program v w ∧ w.FailsAt e program kind p := by
  obtain ⟨u, hu, hfails⟩ := h
  rcases hu.cases_head with rfl | ⟨w, hstart, hrest⟩
  · exact .inl hfails
  · exact .inr ⟨w, hstart, u, hrest, hfails⟩

/-- An evaluation leaves the number of lookaheads under way as it is, unless it is that of a
lookahead itself. -/
theorem Starts.suppress (hstart : Starts e program v w) (hv : v.Regular e program) :
    (¬ v.combinator.IsLookahead ∧ w.state.suppress = v.state.suppress) ∨
      (v.combinator.IsLookahead ∧ w.state.suppress = v.state.suppress + 1) := by
  have hc := hv.resolves
  cases hstart with
  | @sequenceRight budget left right s node l hleft hmatched =>
    subst hleft
    have hbalanced := (compositional_balanced e program).eval_run budget
      (Program.resolves_sequence.mp hc).1
    exact .inl ⟨id, (hbalanced s .empty).suppress⟩
  | @choiceRight budget left right s node l hleft hfailed =>
    subst hleft
    have hbalanced := (compositional_balanced e program).eval_run budget
      (Program.resolves_choice.mp hc).1
    have hframe := (hbalanced s .empty).trans (ParseState.sameFrame_restore _ s.position)
    exact .inl ⟨id, hframe.suppress⟩
  | turn hturn => exact .inl ⟨id, (hturn.sameFrame (Program.resolves_repetition.mp hc)).suppress⟩
  | not => exact .inr ⟨trivial, rfl⟩
  | _ => exact .inl ⟨id, rfl⟩

/-- How the evaluation of a leaf ends. -/
theorem outcome_of_leaf (hleaf : v.combinator.IsLeaf) :
    ((v.outcome e program).verdict = .failed ∧
        ∃ natural, (v.outcome e program).state = v.state.fail natural) ∨
      (v.outcome e program).verdict ≠ .failed ∧
        ((v.outcome e program).state = v.state ∨
          ∃ stop, (v.outcome e program).state = v.state.accept stop) := by
  obtain ⟨budget, c, s, node⟩ := v
  cases c with
  | literal text =>
    simp only [Evaluation.outcome, eval, Step.literal]
    split
    · exact .inr ⟨by simp [Step.accept], .inr ⟨_, rfl⟩⟩
    · exact .inl ⟨rfl, _, rfl⟩
  | pattern source times =>
    simp only [Evaluation.outcome, eval]
    split
    · simp only [Step.pattern]
      split
      · exact .inr ⟨by simp, .inl rfl⟩
      · exact .inr ⟨by simp [Step.accept], .inr ⟨_, rfl⟩⟩
      · exact .inl ⟨rfl, _, rfl⟩
    · exact .inr ⟨by simp, .inl rfl⟩
  | _ => exact hleaf.elim

/-- The evaluation of a lookahead records nothing. -/
theorem failure_of_lookahead (h : v.combinator.IsLookahead) :
    (v.outcome e program).state.failure = v.state.failure := by
  obtain ⟨budget, c, s, node⟩ := v
  cases c with
  | not body => exact (silent_eval e program budget body).record s node
  | _ => exact h.elim

/-- Outside of lookaheads the number of lookaheads under way stays the same. -/
theorem Continues.suppress (hstart : Continues e program v w) (hv : v.Regular e program) :
    w.state.suppress = v.state.suppress := by
  rcases hstart.2.suppress hv with ⟨_, heq⟩ | ⟨hlookahead, _⟩
  · exact heq
  · exact absurd hlookahead hstart.1

/-- Behind the evaluation the furthest failure is where it has been before or where a leaf has
failed, and no leaf has failed beyond it. -/
structure Evaluation.Records (e : Setting) (program : Program) (v : Evaluation) : Prop where
  le : v.state.failure.position ≤ (v.outcome e program).state.failure.position
  origin : (v.outcome e program).state.failure.position = v.state.failure.position ∨
    v.FailsAt e program Combinator.IsLeaf (v.outcome e program).state.failure.position
  bound : ∀ p, v.FailsAt e program Combinator.IsLeaf p →
    p ≤ (v.outcome e program).state.failure.position

/-- What each of several evaluations records about its leaves is what they record together. -/
theorem Succession.records {f g : FurthestFailure} {ws : List Evaluation}
    (h : Succession e program f ws g) (hws : ∀ w ∈ ws, w.Records e program) :
    f.position ≤ g.position ∧
      (g.position = f.position ∨
        ∃ w ∈ ws, w.FailsAt e program Combinator.IsLeaf g.position) ∧
      ∀ w ∈ ws, ∀ p, w.FailsAt e program Combinator.IsLeaf p → p ≤ g.position := by
  induction h with
  | nil => exact ⟨Nat.le_refl _, .inl rfl, fun w hw => absurd hw List.not_mem_nil⟩
  | @cons w ws f g hstart _ ih =>
    obtain ⟨hfirst, hrest⟩ := List.forall_mem_cons.mp hws
    obtain ⟨hle, horigin, hbound⟩ := ih hrest
    subst hstart
    refine ⟨Nat.le_trans hfirst.le hle, ?_, ?_⟩
    · rcases horigin with heq | ⟨u, hu, hfails⟩
      · rw [heq]
        exact hfirst.origin.imp_right fun hfails => ⟨w, List.mem_cons_self, hfails⟩
      · exact .inr ⟨u, List.mem_cons_of_mem _ hu, hfails⟩
    · rw [List.forall_mem_cons]
      exact ⟨fun p hp => Nat.le_trans (hfirst.bound p hp) hle, hbound⟩

/-- A leaf outside of lookaheads records its failure. -/
theorem records_of_leaf (hleaf : v.combinator.IsLeaf) (hopen : v.state.suppress = 0) :
    v.Records e program := by
  have hself : ∀ p, v.FailsAt e program Combinator.IsLeaf p →
      (v.outcome e program).verdict = .failed ∧ v.state.position = p := by
    intro p hp
    rcases hp.cases with ⟨_, hfailed, hposition⟩ | ⟨w, ⟨_, hstart⟩, _⟩
    · exact ⟨hfailed, hposition⟩
    · cases hstart <;> exact hleaf.elim
  rcases outcome_of_leaf (e := e) hleaf with ⟨hfailed, natural, hstate⟩ | ⟨hfailed, hstate⟩
  · have hposition : (v.outcome e program).state.failure.position =
        max v.state.failure.position v.state.position := by
      rw [hstate, ParseState.failurePosition_fail, if_neg (by omega)]
    refine ⟨by omega, ?_, fun p hp => ?_⟩
    · rcases Nat.le_total v.state.position v.state.failure.position with hbehind | hahead
      · exact .inl (hposition.trans (Nat.max_eq_left hbehind))
      · rw [hposition, Nat.max_eq_right hahead]
        exact .inr (.here hleaf hfailed)
    · have := (hself p hp).2
      omega
  · have hsame : (v.outcome e program).state.failure.position = v.state.failure.position := by
      rcases hstate with hstate | ⟨stop, hstate⟩
      · rw [hstate]
      · rw [hstate, ParseState.failurePosition_accept]
    exact ⟨Nat.le_of_eq hsame.symm, .inl hsame, fun p hp => absurd (hself p hp).1 hfailed⟩

/-- Outside of lookaheads, every evaluation records where its leaves fail. -/
theorem records_of_open (hv : v.Regular e program) (hopen : v.state.suppress = 0) :
    v.Records e program := by
  induction v using Evaluation.induct e program with
  | h v ih =>
    by_cases hleaf : v.combinator.IsLeaf
    · exact records_of_leaf hleaf hopen
    by_cases hlookahead : v.combinator.IsLookahead
    · -- A lookahead records nothing, and nothing in it counts as a failure of a leaf.
      have hnone : ∀ p, ¬ v.FailsAt e program Combinator.IsLeaf p := by
        intro p hp
        rcases hp.cases with ⟨hkind, _⟩ | ⟨w, hstart, _⟩
        · exact hleaf hkind
        · exact hstart.1 hlookahead
      have hsame : (v.outcome e program).state.failure = v.state.failure :=
        failure_of_lookahead hlookahead
      exact ⟨Nat.le_of_eq (congrArg _ hsame.symm), .inl (congrArg _ hsame),
        fun p hp => absurd hp (hnone p)⟩
    · obtain ⟨ws, hws, hsuccession⟩ := succession_starts hv hleaf
      have hcontinues : ∀ w, w ∈ ws ↔ Continues e program v w := fun w =>
        (hws w).symm.trans (and_iff_right hlookahead).symm
      obtain ⟨hle, horigin, hbound⟩ := hsuccession.records fun w hw => by
        have hstart := (hcontinues w).mp hw
        exact ih w hstart.2 (hv.starts hstart.2) ((hstart.suppress hv).trans hopen)
      refine ⟨hle, horigin.imp_right ?_, fun p hp => ?_⟩
      · rintro ⟨w, hw, hfails⟩
        exact hfails.later ((hcontinues w).mp hw)
      · rcases hp.cases with ⟨hkind, _⟩ | ⟨w, hstart, hfails⟩
        · exact absurd hkind hleaf
        · exact hbound w ((hcontinues w).mpr hstart) p hfails

/-- All that is started in a program with short loops has short loops. -/
theorem Starts.shortLoops (hstart : Starts e program v w)
    (hprogram : ∀ rule ∈ program.rules, rule.body.ShortLoops)
    (hv : v.combinator.ShortLoops) : w.combinator.ShortLoops := by
  cases hstart with
  | call hrule => exact hprogram _ (List.mem_of_getElem? hrule)
  | _ => exact hv.operand (by simp [Combinator.operands])

/-- An operation other than a lookahead fails only if one of its operands fails. -/
theorem exists_failed_operand (hv : v.Regular e program) (hshort : v.combinator.ShortLoops)
    (hleaf : ¬ v.combinator.IsLeaf) (hlookahead : ¬ v.combinator.IsLookahead)
    (hfailed : (v.outcome e program).verdict = .failed) :
    ∃ w, Starts e program v w ∧ (w.outcome e program).verdict = .failed := by
  obtain ⟨budget, c, s, node⟩ := v
  obtain ⟨hc, hs, hdepth⟩ := hv
  cases c with
  | literal | pattern => exact absurd trivial hleaf
  | not body => exact absurd trivial hlookahead
  | sequence left right =>
    simp only [Evaluation.outcome, eval, Step.sequence] at hfailed
    split at hfailed
    · cases hfailed
    next hl => exact ⟨_, .sequenceLeft, hl⟩
    next hl =>
      split at hfailed
      · cases hfailed
      next hr => exact ⟨_, .sequenceRight rfl hl, hr⟩
      · cases hfailed
  | choice left right =>
    simp only [Evaluation.outcome, eval, Step.choice] at hfailed
    split at hfailed
    · cases hfailed
    · cases hfailed
    next hl => exact ⟨_, .choiceLeft, hl⟩
  | repetition min max body =>
    obtain ⟨hmin, hmax⟩ := hshort min max body (Combinator.self_mem_preorder _)
    obtain ⟨hmore, hbody⟩ := Step.failed_of_repetition hmin hmax hfailed
    exact ⟨_, .turn (.first hmore), hbody⟩
  | drop body => exact ⟨_, .drop, hfailed⟩
  | terminal decode body =>
    simp only [Evaluation.outcome, eval, Step.terminal] at hfailed
    split at hfailed
    · cases hfailed
    next hbody => exact ⟨_, .terminal, hbody⟩
    · cases hfailed
  | errorName label promote body => exact ⟨_, .errorName, hfailed⟩
  | call id =>
    cases budget with
    | zero => cases hfailed
    | succ budget =>
      obtain ⟨rule, hrule⟩ := Option.isSome_iff_exists.mp (hc id (by simp))
      have hbudget : e.limit - s.depth = budget + 1 := hs.room
      have hroom : s.depth < e.limit := by omega
      simp only [Evaluation.outcome, eval, Interpreter.call, hrule] at hfailed
      rw [Step.call_of_lt hroom] at hfailed
      dsimp only at hfailed
      split at hfailed
      · cases hfailed
      next hbody => exact ⟨_, .call hrule hroom, hbody⟩
      · cases hfailed

/-- Behind every failure there is one of a leaf or of a lookahead. -/
theorem exists_failsAt_of_failed (hprogram : ∀ rule ∈ program.rules, rule.body.ShortLoops)
    (hv : v.Regular e program) (hshort : v.combinator.ShortLoops)
    (hfailed : (v.outcome e program).verdict = .failed) :
    (∃ p, v.FailsAt e program Combinator.IsLeaf p) ∨
      ∃ p, v.FailsAt e program Combinator.IsLookahead p := by
  induction v using Evaluation.induct e program with
  | h v ih =>
    by_cases hleaf : v.combinator.IsLeaf
    · exact .inl ⟨_, .here hleaf hfailed⟩
    by_cases hlookahead : v.combinator.IsLookahead
    · exact .inr ⟨_, .here hlookahead hfailed⟩
    obtain ⟨w, hstart, hw⟩ := exists_failed_operand hv hshort hleaf hlookahead hfailed
    have hcontinues : Continues e program v w := ⟨hlookahead, hstart⟩
    rcases ih w hstart (hv.starts hstart) (hstart.shortLoops hprogram hshort) hw with
      ⟨p, hp⟩ | ⟨p, hp⟩
    · exact .inl ⟨p, hp.later hcontinues⟩
    · exact .inr ⟨p, hp.later hcontinues⟩

/-- Outside of lookaheads, a literal or a pattern fails at an offset in the parse of an input from a
rule, or the parse ends there before the input does. -/
inductive FailsAt (i : Interpreter) (rule : RuleId) (input : List Char) (p : Nat) : Prop where
  | leaf : (i.firstEvaluation rule).FailsAt (i.setting input) i.program Combinator.IsLeaf p →
      FailsAt i rule input p
  | endOfInput : (i.outcome rule input).verdict = .matched →
      (i.outcome rule input).state.position = p → p ≠ byteLength input → FailsAt i rule input p

/-- A lookahead that is no part of another one fails at an offset. -/
def LookaheadFailsAt (i : Interpreter) (rule : RuleId) (input : List Char) (p : Nat) : Prop :=
  (i.firstEvaluation rule).FailsAt (i.setting input) i.program Combinator.IsLookahead p

/-- The evaluation with which a parse begins is regular. -/
theorem regular_firstEvaluation {i : Interpreter} {rule : RuleId} (input : List Char)
    (hrule : (i.program.rule? rule).isSome = true) :
    (i.firstEvaluation rule).Regular (i.setting input) i.program :=
  ⟨by simpa [firstEvaluation, Program.Resolves] using hrule,
    ⟨isBoundary_zero input, Nat.sub_zero _⟩, Nat.zero_le _⟩

/-- If the call of the start rule fails, then the furthest failure is that of a leaf, or else only
lookaheads have failed. -/
theorem places_of_failed {i : Interpreter} {rule : RuleId} {input : List Char}
    (hloops : ∀ rule ∈ i.program.rules, rule.body.ShortLoops)
    (hrule : (i.program.rule? rule).isSome = true)
    (hfailed : (i.outcome rule input).verdict = .failed) :
    (i.FailsAt rule input (i.outcome rule input).state.failure.position ∧
        ∀ p, i.FailsAt rule input p → p ≤ (i.outcome rule input).state.failure.position) ∨
      ((i.outcome rule input).state.failure.position = 0 ∧ (∀ p, ¬ i.FailsAt rule input p) ∧
        ∃ p, i.LookaheadFailsAt rule input p) := by
  have hregular := regular_firstEvaluation input hrule
  obtain ⟨_, horigin, hbound⟩ := records_of_open hregular rfl
  have hleaf : ∀ p, i.FailsAt rule input p →
      (i.firstEvaluation rule).FailsAt (i.setting input) i.program Combinator.IsLeaf p := by
    rintro p (hp | ⟨hmatched, _, _⟩)
    · exact hp
    · simp [hfailed] at hmatched
  by_cases hsome : ∃ p, i.FailsAt rule input p
  · obtain ⟨p, hp⟩ := hsome
    have hle := hbound p (hleaf p hp)
    refine .inl ⟨?_, fun p hp => hbound p (hleaf p hp)⟩
    rcases horigin with hzero | hfails
    · -- No failure lies before the start of the input, so this one is there.
      have hzero : (i.outcome rule input).state.failure.position = 0 := hzero
      obtain rfl : p = 0 := by
        have : p ≤ (i.outcome rule input).state.failure.position := hle
        omega
      exact hzero ▸ hp
    · exact .leaf hfails
  · have hnone : ∀ p, ¬ i.FailsAt rule input p := fun p hp => hsome ⟨p, hp⟩
    have hshort : (i.firstEvaluation rule).combinator.ShortLoops := by
      simp [firstEvaluation, Combinator.ShortLoops, Combinator.preorder]
    refine .inr ⟨horigin.resolve_right fun h => hnone _ (.leaf h), hnone, ?_⟩
    rcases exists_failsAt_of_failed hloops hregular hshort hfailed with ⟨p, hp⟩ | hlookahead
    · exact absurd (.leaf hp) (hnone p)
    · exact hlookahead

/-- If the call of the start rule matches but leaves some input, then the furthest failure is that
of a leaf, or the end of the input has been expected beyond it. -/
theorem places_of_unfinished {i : Interpreter} {rule : RuleId} {input : List Char}
    (hrule : (i.program.rule? rule).isSome = true)
    (hmatched : (i.outcome rule input).verdict = .matched)
    (hstop : (i.outcome rule input).state.position ≠ byteLength input) :
    i.FailsAt rule input ((i.outcome rule input).state.fail endOfInput).failure.position ∧
      ∀ p, i.FailsAt rule input p →
        p ≤ ((i.outcome rule input).state.fail endOfInput).failure.position := by
  have hregular := regular_firstEvaluation input hrule
  obtain ⟨_, horigin, hbound⟩ := records_of_open hregular rfl
  have hsuppress : (i.outcome rule input).state.suppress = 0 :=
    ((compositional_balanced (i.setting input) i.program).call_run i.limit hrule _ _).suppress
  rw [ParseState.failurePosition_fail, if_neg (by omega)]
  constructor
  · rcases Nat.le_total (i.outcome rule input).state.failure.position
      (i.outcome rule input).state.position with hahead | hbehind
    · rw [Nat.max_eq_right hahead]
      exact .endOfInput hmatched rfl hstop
    · rw [Nat.max_eq_left hbehind]
      rcases horigin with hzero | hfails
      · have hzero : (i.outcome rule input).state.failure.position = 0 := hzero
        exact .endOfInput hmatched (by omega) (by omega)
      · exact .leaf hfails
  · rintro p (hp | ⟨_, rfl, _⟩)
    · exact Nat.le_trans (hbound p hp) (Nat.le_max_left _ _)
    · exact Nat.le_max_right _ _

/-- A failed parse is reported at the furthest place where a literal or a pattern outside of
lookaheads has failed, or the input should have ended. Where nothing but lookaheads has failed, the
parse is reported at the start of the input instead. -/
theorem failure_offset_exact {i : Interpreter} {rule : RuleId} {input : List Char}
    {parse : Parse} {events : List Event}
    (hloops : ∀ rule ∈ i.program.rules, rule.body.ShortLoops)
    (hrule : (i.program.rule? rule).isSome = true)
    (hparse : i.parseFrom rule input = .ok (parse, events)) (hfailed : parse.success = false) :
    ∃ offset, parse.failureOffset = some offset ∧
      parse.messages.map Message.position = [(LineIndex.ofChars input).position offset] ∧
      ((i.FailsAt rule input offset ∧ ∀ p, i.FailsAt rule input p → p ≤ offset) ∨
        (offset = 0 ∧ (∀ p, ¬ i.FailsAt rule input p) ∧ ∃ p, i.LookaheadFailsAt rule input p)) := by
  obtain ⟨s, hrun, _⟩ := parseFrom_eq_ok hparse
  have hrestart : ParseState.initial.restart = .initial := rfl
  simp only [runStep, hrestart] at hrun
  split at hrun
  · cases hrun
  next hverdict =>
    cases hrun
    exact ⟨_, rfl, rfl, places_of_failed hloops hrule hverdict⟩
  next hverdict =>
    split at hrun
    · cases hrun
      cases hfailed
    next hstop =>
      cases hrun
      exact ⟨_, rfl, rfl, .inl (places_of_unfinished hrule hverdict hstop)⟩

/-- An `a`, not followed by a `b`, and a `c`. -/
def letterWithoutB : Interpreter where
  program :=
    ⟨[⟨"S", .sequence (.sequence (.literal "a") (.not (.literal "b"))) (.literal "c"), true⟩],
      ⟨0⟩, by decide⟩
  patterns := .empty
  limit := 8
  compiled := rfl

/-- There are no loops in the rules at all. -/
theorem letterWithoutB_shortLoops :
    ∀ rule ∈ letterWithoutB.program.rules, rule.body.ShortLoops := by
  simp [letterWithoutB, Combinator.ShortLoops, Combinator.preorder]

/-- Where a `d` follows, the lookahead matches and the parse is reported at the missing `c`. -/
theorem letterWithoutB_fails_on_ad : ∃ parse events,
    (∀ rule ∈ letterWithoutB.program.rules, rule.body.ShortLoops) ∧
      (letterWithoutB.program.rule? ⟨0⟩).isSome = true ∧
      letterWithoutB.parseFrom ⟨0⟩ ['a', 'd'] = .ok (parse, events) ∧ parse.success = false ∧
      parse.failureOffset = some 1 ∧ letterWithoutB.FailsAt ⟨0⟩ ['a', 'd'] 1 := by
  have hrule : (letterWithoutB.program.rule? ⟨0⟩).isSome = true := rfl
  have hparse : letterWithoutB.parseFrom ⟨0⟩ ['a', 'd'] = .ok (_, _) := rfl
  obtain ⟨offset, hoffset, _, hplaces⟩ :=
    failure_offset_exact letterWithoutB_shortLoops hrule hparse rfl
  obtain rfl : 1 = offset := Option.some.inj hoffset
  refine ⟨_, _, letterWithoutB_shortLoops, hrule, rfl, rfl, hoffset, ?_⟩
  rcases hplaces with ⟨hfails, _⟩ | ⟨hzero, _⟩
  · exact hfails
  · cases hzero

/-- Where a `b` follows, nothing fails but the lookahead, behind the `a`. -/
theorem letterWithoutB_fails_only_at_one {p : Nat}
    (h : (letterWithoutB.firstEvaluation ⟨0⟩).FailsAt (letterWithoutB.setting ['a', 'b'])
      letterWithoutB.program (fun c => c.IsLeaf ∨ c.IsLookahead) p) : p = 1 := by
  rcases h.cases with ⟨hkind, _⟩ | ⟨_, ⟨_, hstart⟩, hbody⟩
  · simp [firstEvaluation, Combinator.IsLeaf, Combinator.IsLookahead] at hkind
  obtain rfl := (starts_call_iff rfl (by decide)).mp hstart
  rcases hbody.cases with ⟨hkind, _⟩ | ⟨_, ⟨_, hstart⟩, hpart⟩
  · simp [Combinator.IsLeaf, Combinator.IsLookahead] at hkind
  rcases starts_sequence_iff.mp hstart with rfl | ⟨hmatched, _⟩
  · rcases hpart.cases with ⟨hkind, _⟩ | ⟨_, ⟨_, hstart⟩, hpart⟩
    · simp [Combinator.IsLeaf, Combinator.IsLookahead] at hkind
    rcases starts_sequence_iff.mp hstart with rfl | ⟨_, rfl⟩
    · rcases hpart.cases with ⟨_, hfailed, _⟩ | ⟨_, ⟨_, hstart⟩, _⟩
      · cases hfailed
      · cases hstart
    · rcases hpart.cases with ⟨_, _, hposition⟩ | ⟨_, ⟨hother, _⟩, _⟩
      · exact hposition.symm
      · exact absurd trivial hother
  · cases hmatched

/-- So the parse is reported at the `a`, which has matched, and not where something has failed. -/
theorem letterWithoutB_misreports_ab : ∃ parse events,
    (∀ rule ∈ letterWithoutB.program.rules, rule.body.ShortLoops) ∧
      (letterWithoutB.program.rule? ⟨0⟩).isSome = true ∧
      letterWithoutB.parseFrom ⟨0⟩ ['a', 'b'] = .ok (parse, events) ∧ parse.success = false ∧
      parse.failureOffset = some 0 ∧
      parse.messages = [.error "Unexpected `\"a\"`" ((LineIndex.ofChars ['a', 'b']).position 0)] ∧
      ¬ letterWithoutB.FailsAt ⟨0⟩ ['a', 'b'] 0 ∧
      ¬ letterWithoutB.LookaheadFailsAt ⟨0⟩ ['a', 'b'] 0 ∧
      letterWithoutB.LookaheadFailsAt ⟨0⟩ ['a', 'b'] 1 := by
  refine ⟨_, _, letterWithoutB_shortLoops, rfl, rfl, rfl, rfl, rfl, ?_, ?_, ?_⟩
  · rintro (hleaf | ⟨hmatched, _, _⟩)
    · have hone := letterWithoutB_fails_only_at_one (hleaf.mono fun _ => .inl)
      omega
    · cases hmatched
  · intro hlookahead
    have hone := letterWithoutB_fails_only_at_one (hlookahead.mono fun _ => .inr)
    omega
  · exact .later ⟨id, .call rfl (by decide)⟩ (.later ⟨id, .sequenceLeft⟩
      (.later ⟨id, .sequenceRight rfl rfl⟩ (.here trivial rfl)))

end Interpreter

end Peg
