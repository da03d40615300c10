import Peg.Proofs.Parse.Furthest
import Peg.Proofs.Parse.Termination

/-!
# One evaluation after another

The evaluations that an evaluation starts run one after another, and what is recorded about the
furthest failure is handed on from each to the next. Nothing else touches this record but the leaves
of a combinator, which start no evaluation.
-/

namespace Peg

open Peg.Text

namespace Combinator

/-- A literal or a pattern. -/
def IsLeaf : Combinator → Prop
  | literal _ | pattern _ _ => True
  | _ => False

/-- A negative lookahead. -/
def IsLookahead : Combinator → Prop
  | not _ => True
  | _ => False

/-- The loops in an operand are loops of the combinator. -/
theorem ShortLoops.operand {c d : Combinator} (h : c.ShortLoops) (hd : d ∈ c.operands) :
    d.ShortLoops :=
  fun min max body hbody => h min max body (preorder_subset hd hbody)

end Combinator

/-- The number of turns of a loop only grows. -/
theorem Step.le_count_loop (max : Option Nat) (body : Step) (fuel count : Nat) (s : ParseState)
    (node : ParseTree) : count ≤ (Step.loop max body fuel count s node).count := by
  induction fuel generalizing count s node with
  | zero => exact Nat.le_refl _
  | succ fuel ih =>
    simp only [Step.loop]
    split
    · split
      · exact Nat.le_refl _
      · exact Nat.le_refl _
      · split
        · exact Nat.le_succ _
        · exact Nat.le_of_succ_le (ih _ _ _)
    · exact Nat.le_refl _

/-- A repetition that asks for one turn at most fails only if its body fails in the state in which
the repetition starts. -/
theorem Step.failed_of_repetition {e : Setting} {min : Nat} {max : Option Nat} {body : Step}
    {s : ParseState} {node : ParseTree} (hmin : min ≤ 1) (hmax : ∀ m ∈ max, min ≤ m)
    (hfailed : (Step.repetition e min max body s node).verdict = .failed) :
    mayContinue max 0 = true ∧ (body s .empty).verdict = .failed := by
  simp only [Step.repetition] at hfailed
  split at hfailed
  · cases hfailed
  next hnone =>
  split at hfailed
  next hfew =>
    have hmore : mayContinue max 0 = true := by
      rw [mayContinue_eq_true_iff]
      intro m hm
      have hle := hmax m hm
      omega
    refine ⟨hmore, ?_⟩
    cases hverdict : (body s .empty).verdict with
    | failed => rfl
    | halted error =>
      rw [loop_of_halted hmore hverdict] at hnone
      cases hnone
    | matched =>
      by_cases hidle : (body s .empty).state.position = s.position
      · rw [loop_of_idle hmore hverdict hidle] at hfew
        exact absurd hfew (Nat.not_lt.mpr hmin)
      · rw [loop_of_further hmore hverdict hidle] at hfew
        have hcount := le_count_loop max body (byteLength e.input - s.position) (0 + 1)
          (body s .empty).state (ParseTree.empty.splice (body s .empty).node)
        exact absurd hfew (by omega)
  · cases hfailed

/-- To close a repetition is to go back at most. -/
theorem Step.failure_close (r : Step.LoopOutcome) (min : Nat) (s : ParseState)
    (node : ParseTree) : (r.close min s node).state.failure = r.state.failure := by
  unfold LoopOutcome.close
  split
  · rfl
  · split
    · exact ParseState.failure_restore _ _
    · rfl

namespace Interpreter

variable {e : Setting} {program : Program}

/-- The combinator of an evaluation that another one starts is smaller, or else fewer calls may be
nested in it. -/
theorem wellFounded_starts (e : Setting) (program : Program) :
    WellFounded fun w v => Starts e program v w := by
  refine Subrelation.wf (r := InvImage (Prod.Lex (· < ·) (· < ·))
    fun v : Evaluation => (v.budget, sizeOf v.combinator)) (fun {w v} hstart => ?_)
    (InvImage.wf _ (Prod.lex sizeOfWFRel sizeOfWFRel).wf)
  cases hstart with
  | call => exact Prod.Lex.left _ _ (Nat.lt_succ_self _)
  | _ => exact Prod.Lex.right _ (by simp +arith)

/-- What holds of an evaluation if it holds of those that it starts holds of all evaluations. -/
theorem Evaluation.induct (e : Setting) (program : Program) {P : Evaluation → Prop}
    (h : ∀ v, (∀ w, Starts e program v w → P w) → P v) (v : Evaluation) : P v :=
  (wellFounded_starts e program).induction v h

/-- Evaluations run one after another. The first one starts with the given record of the furthest
failure, and the last one leaves the other one behind. -/
inductive Succession (e : Setting) (program : Program) :
    FurthestFailure → List Evaluation → FurthestFailure → Prop where
  | nil (f : FurthestFailure) : Succession e program f [] f
  | cons {w : Evaluation} {ws : List Evaluation} {f g : FurthestFailure} :
      w.state.failure = f → Succession e program (w.outcome e program).state.failure ws g →
      Succession e program f (w :: ws) g

/-- One evaluation by itself. -/
theorem Succession.single {w : Evaluation} {f g : FurthestFailure} (hf : w.state.failure = f)
    (hg : (w.outcome e program).state.failure = g) : Succession e program f [w] g :=
  .cons hf (hg ▸ .nil _)

/-- One evaluation behind another. -/
theorem Succession.pair {v w : Evaluation} {f g : FurthestFailure} (hf : v.state.failure = f)
    (hv : w.state.failure = (v.outcome e program).state.failure)
    (hg : (w.outcome e program).state.failure = g) : Succession e program f [v, w] g :=
  .cons hf (.single hv hg)

section Turns

variable {max : Option Nat} {body : Step} {s t u : ParseState} {count k : Nat}

/-- A turn begins only as long as the loop may go on. -/
theorem BeginsTurn.mayContinue (h : BeginsTurn max body s k t) :
    Step.mayContinue max k = true := by
  cases h with
  | first hmore => exact hmore
  | next _ _ _ hmore => exact hmore

/-- Turns with the same number begin in the same state. -/
theorem BeginsTurn.unique (h : BeginsTurn max body s k t) (h' : BeginsTurn max body s k u) :
    u = t := by
  induction h generalizing u with
  | first =>
    cases h'
    rfl
  | next _ _ _ _ ih =>
    cases h' with
    | next hbefore => rw [ih hbefore]

/-- In every turn but the last one the body matches and moves the cursor. -/
theorem BeginsTurn.before (h : BeginsTurn max body s k u) (hlt : count < k)
    (ht : BeginsTurn max body s count t) :
    (body t .empty).verdict = .matched ∧ (body t .empty).state.position ≠ t.position := by
  induction h with
  | first => omega
  | @next last v hv hmatched hmoved _ ih =>
    rcases Nat.lt_succ_iff_lt_or_eq.mp hlt with hbefore | rfl
    · exact ih hbefore
    · obtain rfl := ht.unique hv
      exact ⟨hmatched, hmoved⟩

/-- No turn begins behind a loop that may not go on. -/
theorem BeginsTurn.lt_of_full (h : BeginsTurn max body s k u)
    (hfull : Step.mayContinue max count = false) : k < count := by
  obtain ⟨m, hm, hle⟩ := Step.mayContinue_eq_false_iff.mp hfull
  have hlt := Step.mayContinue_eq_true_iff.mp h.mayContinue m hm
  omega

end Turns

variable {budget : Nat} {s t : ParseState}

/-- Every turn of a loop begins with the labels, the lookaheads and the calls of the first one. -/
theorem BeginsTurn.sameFrame {max : Option Nat} {body : Combinator} {count : Nat}
    (h : BeginsTurn max (eval e (Interpreter.call e program budget) body) s count t)
    (hbody : program.Resolves body) : s.SameFrame t := by
  induction h with
  | first => exact .refl s
  | next _ _ _ _ ih =>
    have hbalanced := (compositional_balanced e program).eval_run budget hbody
    exact ih.trans (hbalanced _ .empty)

/-- The turns of a loop from one of its states on run one after another. -/
theorem succession_loop {body : Combinator} (hbody : program.Resolves body) (max : Option Nat)
    {fuel : Nat} (count : Nat) (ht : Fits e budget t) (node : ParseTree)
    (hfuel : byteLength e.input - t.position < fuel)
    (hturn : Step.mayContinue max count = true →
      BeginsTurn max (eval e (Interpreter.call e program budget) body) s count t) :
    ∃ turns : List ParseState,
      (∀ u, u ∈ turns ↔ ∃ k, count ≤ k ∧
        BeginsTurn max (eval e (Interpreter.call e program budget) body) s k u) ∧
      Succession e program t.failure (turns.map fun u => ⟨budget, body, u, .empty⟩)
        (Step.loop max (eval e (Interpreter.call e program budget) body) fuel count t
          node).state.failure := by
  induction fuel generalizing count t node with
  | zero => omega
  | succ fuel ih =>
    cases hmore : Step.mayContinue max count with
    | false =>
      rw [Step.loop_of_full hmore]
      refine ⟨[], fun u => ⟨fun hu => absurd hu List.not_mem_nil, ?_⟩, .nil _⟩
      rintro ⟨k, hle, hk⟩
      have hlt := hk.lt_of_full hmore
      omega
    | true =>
      have hbegins := hturn hmore
      -- Unless the body matches and moves the cursor, this turn is the last one.
      have hlast : ¬ ((eval e (Interpreter.call e program budget) body t .empty).verdict =
              .matched ∧
            (eval e (Interpreter.call e program budget) body t .empty).state.position ≠
              t.position) →
          ∀ u, u ∈ [t] ↔ ∃ k, count ≤ k ∧
            BeginsTurn max (eval e (Interpreter.call e program budget) body) s k u := by
        intro hends u
        rw [List.mem_singleton]
        constructor
        · rintro rfl
          exact ⟨count, Nat.le_refl _, hbegins⟩
        · rintro ⟨k, hle, hk⟩
          rcases Nat.eq_or_lt_of_le hle with rfl | hlt
          · exact hbegins.unique hk
          · exact absurd (hk.before hlt hbegins) hends
      cases hverdict : (eval e (Interpreter.call e program budget) body t .empty).verdict with
      | halted error =>
        rw [Step.loop_of_halted hmore hverdict]
        exact ⟨[t], hlast (by simp [hverdict]), .single rfl rfl⟩
      | failed =>
        rw [Step.loop_of_failed hmore hverdict]
        exact ⟨[t], hlast (by simp [hverdict]), .single rfl (ParseState.failure_restore _ _).symm⟩
      | matched =>
        by_cases hidle :
            (eval e (Interpreter.call e program budget) body t .empty).state.position = t.position
        · rw [Step.loop_of_idle hmore hverdict hidle]
          exact ⟨[t], hlast (by simp [hidle]), .single rfl rfl⟩
        · obtain ⟨hle, hfits⟩ := Fits.matched hbody ht hverdict
          have hinside := le_byteLength_of_isBoundary hfits.boundary
          rw [Step.loop_of_further hmore hverdict hidle]
          obtain ⟨turns, hturns, hrest⟩ := ih (count + 1) hfits (node.splice _) (by omega)
            fun hfurther => .next hbegins hverdict hidle hfurther
          refine ⟨t :: turns, fun u => ?_, .cons rfl hrest⟩
          rw [List.mem_cons, hturns]
          constructor
          · rintro (rfl | ⟨k, hk, hu⟩)
            · exact ⟨count, Nat.le_refl _, hbegins⟩
            · exact ⟨k, Nat.le_of_succ_le hk, hu⟩
          · rintro ⟨k, hk, hu⟩
            rcases Nat.eq_or_lt_of_le hk with rfl | hlt
            · exact .inl (hbegins.unique hu)
            · exact .inr ⟨k, hlt, hu⟩

section Operands

variable {left right body : Combinator} {node : ParseTree} {w : Evaluation}

/-- A sequence starts its first part, and behind a match of that its second part. -/
theorem starts_sequence_iff :
    Starts e program ⟨budget, .sequence left right, s, node⟩ w ↔
      w = ⟨budget, left, s, .empty⟩ ∨
        (Evaluation.outcome e program ⟨budget, left, s, .empty⟩).verdict = .matched ∧
        w = ⟨budget, right, (Evaluation.outcome e program ⟨budget, left, s, .empty⟩).state,
          (Evaluation.outcome e program ⟨budget, left, s, .empty⟩).node⟩ := by
  constructor
  · intro h
    cases h with
    | sequenceLeft => exact .inl rfl
    | sequenceRight hleft hmatched =>
      subst hleft
      exact .inr ⟨hmatched, rfl⟩
  · rintro (rfl | ⟨hmatched, rfl⟩)
    · exact .sequenceLeft
    · exact .sequenceRight rfl hmatched

/-- A choice starts its first alternative, and behind a failure of that its second one, from the
same place. -/
theorem starts_choice_iff :
    Starts e program ⟨budget, .choice left right, s, node⟩ w ↔
      w = ⟨budget, left, s, .empty⟩ ∨
        (Evaluation.outcome e program ⟨budget, left, s, .empty⟩).verdict = .failed ∧
        w = ⟨budget, right, (Evaluation.outcome e program
          ⟨budget, left, s, .empty⟩).state.restore s.position, .empty⟩ := by
  constructor
  · intro h
    cases h with
    | choiceLeft => exact .inl rfl
    | choiceRight hleft hfailed =>
      subst hleft
      exact .inr ⟨hfailed, rfl⟩
  · rintro (rfl | ⟨hfailed, rfl⟩)
    · exact .choiceLeft
    · exact .choiceRight rfl hfailed

/-- A repetition starts its body for each of its turns. -/
theorem starts_repetition_iff {min : Nat} {max : Option Nat} :
    Starts e program ⟨budget, .repetition min max body, s, node⟩ w ↔
      ∃ t k, BeginsTurn max (eval e (Interpreter.call e program budget) body) s k t ∧
        w = ⟨budget, body, t, .empty⟩ := by
  constructor
  · intro h
    cases h with
    | turn hturn => exact ⟨_, _, hturn, rfl⟩
  · rintro ⟨t, k, hturn, rfl⟩
    exact .turn hturn

/-- A lookahead starts its body with one more lookahead under way. -/
theorem starts_not_iff :
    Starts e program ⟨budget, .not body, s, node⟩ w ↔
      w = ⟨budget, body, { s with suppress := s.suppress + 1 }, .empty⟩ := by
  constructor
  · rintro ⟨⟩
    rfl
  · rintro rfl
    exact .not

/-- A part without output starts its body. -/
theorem starts_drop_iff :
    Starts e program ⟨budget, .drop body, s, node⟩ w ↔ w = ⟨budget, body, s, .empty⟩ := by
  constructor
  · rintro ⟨⟩
    rfl
  · rintro rfl
    exact .drop

/-- A terminal starts its body. -/
theorem starts_terminal_iff {decode : Bool} :
    Starts e program ⟨budget, .terminal decode body, s, node⟩ w ↔
      w = ⟨budget, body, s, .empty⟩ := by
  constructor
  · rintro ⟨⟩
    rfl
  · rintro rfl
    exact .terminal

/-- A label starts its body with the label in force. -/
theorem starts_errorName_iff {label : String} {promote : Bool} :
    Starts e program ⟨budget, .errorName label promote body, s, node⟩ w ↔
      w = ⟨budget, body, { s with labels := ⟨label, promote, s.position⟩ :: s.labels }, node⟩ := by
  constructor
  · rintro ⟨⟩
    rfl
  · rintro rfl
    exact .errorName

/-- A rule starts its body inside of the call, with a node of its own. -/
theorem starts_call_iff {id : RuleId} {rule : Rule} (hrule : program.rule? id = some rule)
    (hroom : s.depth < e.limit) :
    Starts e program ⟨budget + 1, .call id, s, node⟩ w ↔
      w = ⟨budget, rule.body, s.enterRule rule.name, .ofRule rule.name s.position⟩ := by
  constructor
  · intro h
    cases h with
    | call hrule' _ =>
      obtain rfl := Option.some.inj (hrule.symm.trans hrule')
      rfl
  · rintro rfl
    exact .call hrule hroom

end Operands

/-- The evaluations that an evaluation starts run one after another, and all that it records about
the furthest failure is what they record, unless it is the evaluation of a leaf. -/
theorem succession_starts {v : Evaluation} (hv : v.Regular e program)
    (hleaf : ¬ v.combinator.IsLeaf) : ∃ ws, (∀ w, Starts e program v w ↔ w ∈ ws) ∧
      Succession e program v.state.failure ws (v.outcome e program).state.failure := by
  obtain ⟨budget, c, s, node⟩ := v
  obtain ⟨hc, hs, hdepth⟩ := hv
  cases c with
  | literal | pattern => exact absurd trivial hleaf
  | sequence left right =>
    cases hl : (eval e (Interpreter.call e program budget) left s .empty).verdict with
    | halted error =>
      refine ⟨[⟨budget, left, s, .empty⟩], fun w => ?_, .single rfl ?_⟩
      · simp [starts_sequence_iff, Evaluation.outcome, hl]
      · simp [Evaluation.outcome, eval, Step.sequence, hl]
    | failed =>
      refine ⟨[⟨budget, left, s, .empty⟩], fun w => ?_, .single rfl ?_⟩
      · simp [starts_sequence_iff, Evaluation.outcome, hl]
      · simp [Evaluation.outcome, eval, Step.sequence, hl]
    | matched =>
      let l := eval e (Interpreter.call e program budget) left s .empty
      refine ⟨[⟨budget, left, s, .empty⟩, ⟨budget, right, l.state, l.node⟩], fun w => ?_,
        .pair rfl rfl ?_⟩
      · simp [starts_sequence_iff, Evaluation.outcome, hl, l]
      · simp only [Evaluation.outcome, eval, Step.sequence, hl, l]
        split
        · rfl
        · rw [ParseState.failure_restore]
        · rfl
  | choice left right =>
    cases hl : (eval e (Interpreter.call e program budget) left s .empty).verdict with
    | halted error =>
      refine ⟨[⟨budget, left, s, .empty⟩], fun w => ?_, .single rfl ?_⟩
      · simp [starts_choice_iff, Evaluation.outcome, hl]
      · simp [Evaluation.outcome, eval, Step.choice, hl]
    | matched =>
      refine ⟨[⟨budget, left, s, .empty⟩], fun w => ?_, .single rfl ?_⟩
      · simp [starts_choice_iff, Evaluation.outcome, hl]
      · simp [Evaluation.outcome, eval, Step.choice, hl]
    | failed =>
      let l := eval e (Interpreter.call e program budget) left s .empty
      refine ⟨[⟨budget, left, s, .empty⟩, ⟨budget, right, l.state.restore s.position, .empty⟩],
        fun w => ?_, .pair rfl (ParseState.failure_restore _ _) ?_⟩
      · simp [starts_choice_iff, Evaluation.outcome, hl, l]
      · simp only [Evaluation.outcome, eval, Step.choice, hl, l]
        split
        · rfl
        · rfl
        · rw [ParseState.failure_restore]
  | repetition min max body =>
    obtain ⟨turns, hturns, hloop⟩ := succession_loop (Program.resolves_repetition.mp hc) max 0 hs
      .empty (Nat.lt_succ_self _) .first
    refine ⟨turns.map fun t => ⟨budget, body, t, .empty⟩, fun w => ?_, ?_⟩
    · rw [starts_repetition_iff, List.mem_map]
      simp only [hturns, Nat.zero_le, true_and, exists_and_right, eq_comm]
    · rw [Evaluation.outcome, eval, Step.repetition_eq_close]
      rw [Step.failure_close]
      exact hloop
  | not body =>
    refine ⟨[_], fun w => starts_not_iff.trans List.mem_singleton.symm, .single rfl ?_⟩
    simp only [Evaluation.outcome, eval, Step.not]
    split
    · rfl
    · simp
    · simp
  | drop body =>
    exact ⟨[_], fun w => starts_drop_iff.trans List.mem_singleton.symm, .single rfl rfl⟩
  | terminal decode body =>
    refine ⟨[_], fun w => starts_terminal_iff.trans List.mem_singleton.symm, .single rfl ?_⟩
    simp only [Evaluation.outcome, eval, Step.terminal]
    split
    · rfl
    · rfl
    · rfl
  | errorName label promote body =>
    exact ⟨[_], fun w => starts_errorName_iff.trans List.mem_singleton.symm, .single rfl rfl⟩
  | call id =>
    cases budget with
    | zero =>
      refine ⟨[], fun w => ⟨?_, fun hw => absurd hw List.not_mem_nil⟩, .nil _⟩
      rintro ⟨⟩
    | succ budget =>
      obtain ⟨rule, hrule⟩ := Option.isSome_iff_exists.mp (hc id (by simp))
      have hbudget : e.limit - s.depth = budget + 1 := hs.room
      have hroom : s.depth < e.limit := by omega
      refine ⟨[_], fun w => (starts_call_iff hrule hroom).trans List.mem_singleton.symm,
        .single rfl ?_⟩
      simp only [Evaluation.outcome, eval, Interpreter.call, hrule]
      rw [Step.call_of_lt hroom]
      dsimp only
      split
      · rfl
      · rw [ParseState.failure_restore]
        rfl
      · rfl

end Interpreter

end Peg
