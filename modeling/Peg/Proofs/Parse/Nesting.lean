import Peg.Proofs.Parse.Answers

/-!
# Enough nested calls

The derivation of an answer nests finitely many calls. A run that may nest as many calls as the
derivation does not halt, and it gives the answer that was derived.
-/

namespace Peg

open Peg.Text

namespace Step

/-- Wherever `nesting` more calls may be nested, the step answers `r` at offset `i`. -/
def Settles (limit nesting : Nat) (step : Step) (i : Nat) (r : Option Nat) : Prop :=
  ∀ (s : ParseState) (node : ParseTree), s.position = i → s.depth + nesting ≤ limit →
    (step s node).Answers i r

/-- An answer stays the same where more calls may be nested. -/
theorem Settles.mono {limit nesting nesting' i : Nat} {r : Option Nat} {step : Step}
    (h : step.Settles limit nesting i r) (hle : nesting ≤ nesting') :
    step.Settles limit nesting' i r :=
  fun s node hs hroom => h s node hs (Nat.le_trans (Nat.add_le_add_left hle _) hroom)

variable {limit nesting i j : Nat} {r : Option Nat} {left right body : Step} {e : Setting}

/-- A literal that is next in the input answers with the offset behind it. -/
theorem settles_literal {text : String} (h : text.toList <+: dropBytes e.input i) :
    (literal e text).Settles limit nesting i (some (i + byteLength text.toList)) := by
  rintro s node rfl _
  have hfound := List.isPrefixOf_iff_prefix.mpr h
  simp [literal, hfound, Outcome.Answers, accept]

/-- A literal that is not next in the input answers with a failure. -/
theorem settles_literal_none {text : String} (h : ¬ text.toList <+: dropBytes e.input i) :
    (literal e text).Settles limit nesting i none := by
  rintro s node rfl _
  rw [← List.isPrefixOf_iff_prefix] at h
  simp [literal, h, Outcome.Answers, reject]

/-- A pattern answers with the end of its match. -/
theorem settles_pattern {id : Nat} (h : e.patterns.matchAt id e.input i = .ok r) :
    (pattern e id).Settles limit nesting i r := by
  rintro s node rfl _
  cases r with
  | none => simp [pattern, h, Outcome.Answers, reject]
  | some stop => simp [pattern, h, Outcome.Answers, accept]

/-- Behind a match of its first part, a sequence answers what its second part does. -/
theorem Settles.sequence (hbalanced : left.Balanced)
    (hleft : left.Settles limit nesting i (some j)) (hright : right.Settles limit nesting j r) :
    (Step.sequence left right).Settles limit nesting i r := by
  rintro s node rfl hroom
  obtain ⟨hmatched, hj⟩ := hleft s .empty rfl hroom
  have hdepth := (hbalanced s .empty).depth
  have hanswer := hright (left s .empty).state (left s .empty).node hj (by omega)
  cases r with
  | none => simp [Step.sequence, hmatched, hanswer.1, Outcome.Answers]
  | some k => simp [Step.sequence, hmatched, hanswer.1, hanswer.2, Outcome.Answers]

/-- Without a match of its first part, a sequence fails. -/
theorem Settles.sequence_none (hleft : left.Settles limit nesting i none) :
    (Step.sequence left right).Settles limit nesting i none := by
  rintro s node rfl hroom
  simp [Step.sequence, (hleft s .empty rfl hroom).1, Outcome.Answers]

/-- A choice answers what its first alternative does if that matches. -/
theorem Settles.choice_left (hleft : left.Settles limit nesting i (some j)) :
    (Step.choice left right).Settles limit nesting i (some j) := by
  rintro s node rfl hroom
  obtain ⟨hmatched, hj⟩ := hleft s .empty rfl hroom
  simp [Step.choice, hmatched, hj, Outcome.Answers]

/-- A choice answers what its second alternative does if the first one fails. -/
theorem Settles.choice_right (hbalanced : left.Balanced)
    (hleft : left.Settles limit nesting i none) (hright : right.Settles limit nesting i r) :
    (Step.choice left right).Settles limit nesting i r := by
  rintro s node rfl hroom
  have hfailed := (hleft s .empty rfl hroom).1
  have hdepth := ((hbalanced s .empty).trans
    (ParseState.sameFrame_restore _ s.position)).depth
  have hanswer := hright ((left s .empty).state.restore s.position) .empty (by simp)
    (by omega)
  cases r with
  | none => simp [Step.choice, hfailed, hanswer.1, Outcome.Answers]
  | some k => simp [Step.choice, hfailed, hanswer.1, hanswer.2, Outcome.Answers]

/-- A lookahead matches without moving the cursor if its body fails. -/
theorem Settles.not (hbody : body.Settles limit nesting i none) :
    (Step.not body).Settles limit nesting i (some i) := by
  rintro s node rfl hroom
  have hfailed := (hbody { s with suppress := s.suppress + 1 } .empty rfl hroom).1
  simp [Step.not, hfailed, Outcome.Answers]

/-- A lookahead fails if its body matches. -/
theorem Settles.not_none (hbody : body.Settles limit nesting i (some j)) :
    (Step.not body).Settles limit nesting i none := by
  rintro s node rfl hroom
  have hmatched := (hbody { s with suppress := s.suppress + 1 } .empty rfl hroom).1
  simp [Step.not, hmatched, Outcome.Answers]

/-- Dropping output does not change the answer. -/
theorem Settles.drop (hbody : body.Settles limit nesting i r) :
    (Step.drop body).Settles limit nesting i r := by
  rintro s node rfl hroom
  have hanswer := hbody s .empty rfl hroom
  cases r with
  | none => exact hanswer
  | some j => exact hanswer

/-- Joining output does not change the answer. -/
theorem Settles.terminal (hbody : body.Settles limit nesting i r) (decode : Bool) :
    (Step.terminal e decode body).Settles limit nesting i r := by
  rintro s node rfl hroom
  have hanswer := hbody s .empty rfl hroom
  cases r with
  | none => simpa [Step.terminal, hanswer.1, Outcome.Answers] using hanswer.2
  | some j => simpa [Step.terminal, hanswer.1, Outcome.Answers] using hanswer.2

/-- A label does not change the answer. -/
theorem Settles.errorName (hbody : body.Settles limit nesting i r) (label : String)
    (promote : Bool) : (Step.errorName label promote body).Settles limit nesting i r := by
  rintro s node rfl hroom
  have hanswer := hbody { s with labels := ⟨label, promote, s.position⟩ :: s.labels } node rfl hroom
  cases r with
  | none => exact hanswer
  | some j => exact hanswer

/-- The call of a rule needs one more nested call than its body. -/
theorem Settles.call (hbody : body.Settles e.limit nesting i r) (name : String)
    (capture : Bool) : (Step.call e name capture body).Settles e.limit (nesting + 1) i r := by
  rintro s node rfl hroom
  have hdepth : (s.enterRule name).depth + nesting ≤ e.limit := by
    simp only [ParseState.enterRule]
    omega
  have hanswer := hbody (s.enterRule name) (.ofRule name s.position) rfl hdepth
  rw [call_of_lt (by omega)]
  cases r with
  | none => simp [hanswer.1, Outcome.Answers]
  | some j => simpa [hanswer.1, Outcome.Answers] using hanswer.2

end Step

/-- A loop whose body settles its answers takes the turns that are derived for it. -/
theorem Turns.loop_eq {R : Nat → Option Nat → Prop} {max : Option Nat}
    {input : List Char} {count i total j limit nesting fuel : Nat} {body : Step}
    (h : Turns R max count i total j) (hR : Advances input R)
    (hbody : ∀ {i r}, R i r → isBoundary input i = true → body.Settles limit nesting i r)
    (hbalanced : body.Balanced) (hi : isBoundary input i = true) {s : ParseState}
    {node : ParseTree} (hs : s.position = i) (hroom : s.depth + nesting ≤ limit)
    (hfuel : byteLength input - i < fuel) :
    (Step.loop max body fuel count s node).error? = none ∧
      (Step.loop max body fuel count s node).count = total ∧
      (Step.loop max body fuel count s node).state.position = j := by
  obtain ⟨fuel, rfl⟩ : ∃ more, fuel = more + 1 := ⟨fuel - 1, by omega⟩
  induction h generalizing s node fuel with
  | full hmax =>
    rw [Step.loop_of_full (Step.mayContinue_eq_false_iff.mpr hmax)]
    exact ⟨rfl, rfl, hs⟩
  | failed hmax hrec =>
    have hfailed := (hbody hrec hi s .empty hs hroom).1
    rw [Step.loop_of_failed (Step.mayContinue_eq_true_iff.mpr hmax) hfailed]
    exact ⟨rfl, rfl, by simpa using hs⟩
  | idle hmax hrec =>
    obtain ⟨hmatched, hidle⟩ := hbody hrec hi s .empty hs hroom
    rw [Step.loop_of_idle (Step.mayContinue_eq_true_iff.mpr hmax) hmatched
      (hidle.trans hs.symm)]
    exact ⟨rfl, rfl, hidle⟩
  | further hmax hrec hne _ ih =>
    obtain ⟨hmatched, hj⟩ := hbody hrec hi s .empty hs hroom
    obtain ⟨hle, hbound⟩ := hR hrec hi
    have hlt := le_byteLength_of_isBoundary hbound
    have hdepth := (hbalanced s .empty).depth
    rw [Step.loop_of_further (Step.mayContinue_eq_true_iff.mpr hmax) hmatched (by omega)]
    obtain ⟨fuel, rfl⟩ : ∃ more, fuel = more + 1 := ⟨fuel - 1, by omega⟩
    exact ih hbound hj (by omega) fuel (by omega)

namespace Interpreter

/-- Under every limit that leaves room for `nesting` calls, the run of a combinator answers `r` at
offset `i`. -/
def Settles (program : Program) (patterns : PatternTable) (input : List Char) (c : Combinator)
    (i : Nat) (r : Option Nat) (nesting : Nat) : Prop :=
  ∀ limit budget, nesting ≤ budget →
    Step.Settles limit nesting
      (eval ⟨input, patterns, limit⟩ (call ⟨input, patterns, limit⟩ program budget) c) i r

variable {program : Program} {patterns : PatternTable} {input : List Char} {c : Combinator}
  {i : Nat} {r : Option Nat}

/-- The answer of a combinator stays the same under limits that leave more room. -/
theorem Settles.mono {nesting nesting' : Nat}
    (h : Settles program patterns input c i r nesting) (hle : nesting ≤ nesting') :
    Settles program patterns input c i r nesting' :=
  fun limit budget hbudget => (h limit budget (Nat.le_trans hle hbudget)).mono hle

/-- The turns of a loop settle with as many nested calls as the deepest of them. -/
theorem exists_settles_turns {R : Nat → Option Nat → Prop} {max : Option Nat}
    {count total j : Nat} (h : Turns R max count i total j)
    (hR : Advances input R)
    (hbody : ∀ {i r}, R i r → isBoundary input i = true →
      ∃ nesting, Settles program patterns input c i r nesting)
    (hi : isBoundary input i = true) :
    ∃ nesting, Turns (fun i r => R i r ∧
      (isBoundary input i = true → Settles program patterns input c i r nesting))
        max count i total j := by
  induction h with
  | full hmax => exact ⟨0, .full hmax⟩
  | failed hmax hrec =>
    obtain ⟨nesting, hsettles⟩ := hbody hrec hi
    exact ⟨nesting, .failed hmax ⟨hrec, fun _ => hsettles⟩⟩
  | idle hmax hrec =>
    obtain ⟨nesting, hsettles⟩ := hbody hrec hi
    exact ⟨nesting, .idle hmax ⟨hrec, fun _ => hsettles⟩⟩
  | further hmax hrec hne _ ih =>
    obtain ⟨first, hfirst⟩ := hbody hrec hi
    obtain ⟨rest, hrest⟩ := ih (hR hrec hi).2
    refine ⟨first.max rest, .further hmax ⟨hrec, ?_⟩ hne (hrest.mono ?_)⟩
    · exact fun _ => hfirst.mono (Nat.le_max_left _ _)
    · exact fun ⟨hR, hsettles⟩ => ⟨hR, fun hi => (hsettles hi).mono (Nat.le_max_right _ _)⟩

/-- The loop of a repetition takes the turns that are derived for it, wherever it starts. -/
theorem exists_loop_eq {R : Nat → Option Nat → Prop} {max : Option Nat} {total j : Nat}
    (hc : program.Resolves c) (h : Turns R max 0 i total j) (hR : Advances input R)
    (hbody : ∀ {i r}, R i r → isBoundary input i = true →
      ∃ nesting, Settles program patterns input c i r nesting)
    (hi : isBoundary input i = true) :
    ∃ nesting, ∀ limit budget, nesting ≤ budget → ∀ s : ParseState, s.position = i →
      s.depth + nesting ≤ limit →
      let body := eval ⟨input, patterns, limit⟩
        (call ⟨input, patterns, limit⟩ program budget) c
      let loop := Step.loop max body (byteLength input - s.position + 1) 0 s .empty
      loop.error? = none ∧ loop.count = total ∧ loop.state.position = j := by
  obtain ⟨nesting, hturns⟩ := exists_settles_turns h hR hbody hi
  refine ⟨nesting, ?_⟩
  rintro limit budget hbudget s rfl hroom
  have hbalanced := (compositional_balanced ⟨input, patterns, limit⟩ program).eval_run budget hc
  exact hturns.loop_eq (fun hrec hi => hR hrec.1 hi)
    (fun hrec hi => hrec.2 hi limit budget hbudget) hbalanced hi rfl hroom (Nat.lt_succ_self _)

/-- A derived answer is given by every run that may nest enough calls. -/
theorem exists_settles (h : Recognizes program patterns input c i r) (hc : program.Resolves c)
    (hi : isBoundary input i = true) :
    ∃ nesting, Settles program patterns input c i r nesting := by
  induction h with
  | literal hprefix =>
    exact ⟨0, fun limit _ _ => Step.settles_literal (e := ⟨input, patterns, limit⟩) hprefix⟩
  | literalFails hprefix =>
    exact ⟨0, fun limit _ _ => Step.settles_literal_none (e := ⟨input, patterns, limit⟩) hprefix⟩
  | pattern hid hmatch =>
    refine ⟨0, fun limit budget _ s node hs hroom => ?_⟩
    simp only [eval, hid]
    exact Step.settles_pattern (e := ⟨input, patterns, limit⟩) hmatch s node hs hroom
  | sequence hleft _ ihl ihr =>
    rw [Program.resolves_sequence] at hc
    obtain ⟨first, hfirst⟩ := ihl hc.1 hi
    obtain ⟨second, hsecond⟩ := ihr hc.2 (hleft.advances hi).2
    refine ⟨first.max second, fun limit budget hbudget => ?_⟩
    exact Step.Settles.sequence
      ((compositional_balanced ⟨input, patterns, limit⟩ program).eval_run budget hc.1)
      (hfirst.mono (Nat.le_max_left _ _) limit budget hbudget)
      (hsecond.mono (Nat.le_max_right _ _) limit budget hbudget)
  | sequenceFails _ ih =>
    rw [Program.resolves_sequence] at hc
    obtain ⟨nesting, hsettles⟩ := ih hc.1 hi
    exact ⟨nesting, fun limit budget hbudget => (hsettles limit budget hbudget).sequence_none⟩
  | choiceLeft _ ih =>
    rw [Program.resolves_choice] at hc
    obtain ⟨nesting, hsettles⟩ := ih hc.1 hi
    exact ⟨nesting, fun limit budget hbudget => (hsettles limit budget hbudget).choice_left⟩
  | choiceRight _ _ ihl ihr =>
    rw [Program.resolves_choice] at hc
    obtain ⟨first, hfirst⟩ := ihl hc.1 hi
    obtain ⟨second, hsecond⟩ := ihr hc.2 hi
    refine ⟨first.max second, fun limit budget hbudget => ?_⟩
    exact Step.Settles.choice_right
      ((compositional_balanced ⟨input, patterns, limit⟩ program).eval_run budget hc.1)
      (hfirst.mono (Nat.le_max_left _ _) limit budget hbudget)
      (hsecond.mono (Nat.le_max_right _ _) limit budget hbudget)
  | repetition hbody hturns hmin ih =>
    rw [Program.resolves_repetition] at hc
    obtain ⟨nesting, hloop⟩ := exists_loop_eq hc hturns (fun hrec => (hbody hrec).advances)
      (fun hrec => ih hrec hc) hi
    refine ⟨nesting, fun limit budget hbudget s node hs hroom => ?_⟩
    obtain ⟨hnone, hcount, hstop⟩ := hloop limit budget hbudget s hs hroom
    have henough := Nat.not_lt.mpr hmin
    simp [eval, Step.repetition, hnone, hcount, henough, hstop, Outcome.Answers]
  | repetitionFails hbody hturns hmin ih =>
    rw [Program.resolves_repetition] at hc
    obtain ⟨nesting, hloop⟩ := exists_loop_eq hc hturns (fun hrec => (hbody hrec).advances)
      (fun hrec => ih hrec hc) hi
    refine ⟨nesting, ?_⟩
    rintro limit budget hbudget s node rfl hroom
    obtain ⟨hnone, hcount, _⟩ := hloop limit budget hbudget s rfl hroom
    simp [eval, Step.repetition, hnone, hcount, hmin, Outcome.Answers]
  | not _ ih =>
    obtain ⟨nesting, hsettles⟩ := ih (Program.resolves_not.mp hc) hi
    exact ⟨nesting, fun limit budget hbudget => (hsettles limit budget hbudget).not⟩
  | notFails _ ih =>
    obtain ⟨nesting, hsettles⟩ := ih (Program.resolves_not.mp hc) hi
    exact ⟨nesting, fun limit budget hbudget => (hsettles limit budget hbudget).not_none⟩
  | drop _ ih =>
    obtain ⟨nesting, hsettles⟩ := ih (Program.resolves_drop.mp hc) hi
    exact ⟨nesting, fun limit budget hbudget => (hsettles limit budget hbudget).drop⟩
  | terminal _ ih =>
    obtain ⟨nesting, hsettles⟩ := ih (Program.resolves_terminal.mp hc) hi
    exact ⟨nesting, fun limit budget hbudget => (hsettles limit budget hbudget).terminal _⟩
  | errorName _ ih =>
    obtain ⟨nesting, hsettles⟩ := ih (Program.resolves_errorName.mp hc) hi
    exact ⟨nesting, fun limit budget hbudget => (hsettles limit budget hbudget).errorName _ _⟩
  | call hrule _ ih =>
    -- One more nested call than the body of the rule needs.
    obtain ⟨nesting, hsettles⟩ := ih (Program.resolves_body hrule) hi
    refine ⟨nesting + 1, fun limit budget hbudget => ?_⟩
    obtain ⟨budget, rfl⟩ : ∃ less, budget = less + 1 := ⟨budget - 1, by omega⟩
    intro s node hs hroom
    simp only [eval, call, hrule]
    exact Step.Settles.call (e := ⟨input, patterns, limit⟩)
      (hsettles limit budget (by omega)) _ _ s node hs hroom

end Interpreter

end Peg
