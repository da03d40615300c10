import Peg.Proofs.Parse.Evaluation
import Peg.Proofs.Parse.PatternTable
import Peg.Proofs.Parse.Steps
import Peg.Proofs.Regex.MatchEnd

/-!
# No parse goes out of bounds

The cursor only ever stands between two characters of the input, so whatever a parse cuts out of the
input can be cut out. What a program refers to exists: the rules that it calls and the patterns that
it uses. A parse is therefore brought to a halt by its limit or by its input, never by its program.
-/

namespace Peg

open Peg.Text

/-- The cursor and the furthest failure are at boundaries of the input. -/
structure ParseState.InBounds (input : List Char) (s : ParseState) : Prop where
  position : isBoundary input s.position = true
  failure : isBoundary input s.failure.position = true

namespace ParseState

variable {input : List Char} {s : ParseState}

/-- A run starts within its input. -/
theorem inBounds_initial (input : List Char) : initial.InBounds input :=
  ⟨isBoundary_zero input, isBoundary_zero input⟩

/-- The cursor may go back to any boundary of the input. -/
theorem InBounds.restore (h : s.InBounds input) {target : Nat}
    (htarget : isBoundary input target = true) : (s.restore target).InBounds input :=
  ⟨by simpa using htarget, by simpa using h.failure⟩

/-- The cursor may move to any boundary of the input. -/
theorem InBounds.accept (h : s.InBounds input) {stop : Nat} (hstop : isBoundary input stop = true) :
    (s.accept stop).InBounds input := by
  refine ⟨hstop, ?_⟩
  simp only [ParseState.accept, FurthestFailure.reached]
  split
  · split
    · exact h.failure
    · exact h.failure
  · exact h.failure

/-- A failure at the cursor is recorded there, unless another one lies further ahead. -/
theorem InBounds.fail (h : s.InBounds input) (natural : String) :
    (s.fail natural).InBounds input := by
  refine ⟨by simpa using h.position, ?_⟩
  simp only [ParseState.fail]
  split
  · exact h.failure
  · simp only [FurthestFailure.record]
    split
    · exact h.failure
    split
    · exact h.position
    split
    · exact h.failure
    · exact h.failure

end ParseState

/-- An error for which the program is not to blame: too many nested calls, or a search that a
pattern refuses to carry on with. -/
def ParseError.IsExternal (limit : Nat) : ParseError → Prop
  | .recursionLimitExceeded n => n = limit
  | .patternSearch _ _ => True
  | .invalidPattern _ | .unknownPatternId _ | .uncompiledPattern _ => False

/-- An evaluation that started at an offset has ended within the input, behind that offset if it
matched. -/
structure Outcome.Safe (e : Setting) (start : Nat) (o : Outcome) : Prop where
  inBounds : o.state.InBounds e.input
  forward : o.verdict = .matched → start ≤ o.state.position
  external : ∀ error, o.verdict = .halted error → error.IsExternal e.limit

namespace Outcome

variable {e : Setting} {start : Nat} {state : ParseState} {node : ParseTree}

/-- A match is safe that ends within the input and not in front of its start. -/
theorem Safe.matched (hstate : state.InBounds e.input) (hforward : start ≤ state.position) :
    Safe e start ⟨.matched, state, node⟩ :=
  ⟨hstate, fun _ => hforward, nofun⟩

/-- A failure within the input is safe. -/
theorem Safe.failed (hstate : state.InBounds e.input) : Safe e start ⟨.failed, state, node⟩ :=
  ⟨hstate, nofun, nofun⟩

/-- A halt is safe if it comes from outside of the program. -/
theorem Safe.halted {error : ParseError} (hstate : state.InBounds e.input)
    (herror : error.IsExternal e.limit) : Safe e start ⟨.halted error, state, node⟩ := by
  refine ⟨hstate, nofun, ?_⟩
  intro error' h
  cases h
  exact herror

end Outcome

namespace Step

open ParseState

/-- From a state within the input, the step ends safely. -/
def Safe (e : Setting) (step : Step) : Prop :=
  ∀ (s : ParseState) (node : ParseTree), s.InBounds e.input → (step s node).Safe e s.position

variable {e : Setting}

/-- To halt at the limit of the recursion is safe. -/
theorem safe_exhausted : (halt (.recursionLimitExceeded e.limit)).Safe e :=
  fun _ _ hs => .halted hs rfl

/-- A literal is compared with the input at boundaries only. -/
theorem safe_literal (text : String) : (literal e text).Safe e := by
  intro s node hs
  unfold literal
  split
  next hfound =>
    obtain ⟨rest, hrest⟩ := List.isPrefixOf_iff_prefix.mp hfound
    have hstop := isBoundary_add_byteLength hs.position hrest.symm
    exact .matched (hs.accept hstop) (Nat.le_add_right _ _)
  · exact .failed (hs.fail _)

/-- A pattern of the table can be searched for, which may meet a character that stops the search. -/
theorem safe_pattern {id : Nat} (hid : (e.patterns.entry? id).isSome = true) :
    (pattern e id).Safe e := by
  intro s node hs
  unfold pattern
  split
  next error hmatch =>
    obtain ⟨entry, hentry⟩ := Option.isSome_iff_exists.mp hid
    simp only [PatternTable.matchAt, hentry] at hmatch
    split at hmatch
    · cases hmatch
    · cases hmatch
      exact .halted hs trivial
  next stop hmatch =>
    obtain ⟨entry, _, hentry⟩ := PatternTable.matchAt_eq_ok_iff.mp hmatch
    obtain ⟨hle, hstop⟩ := Regex.Automaton.matchAt_stop hentry
    exact .matched (hs.accept hstop) hle
  · exact .failed (hs.fail _)

variable {left right body : Step}

/-- A sequence is safe if its parts are. -/
theorem Safe.sequence (hleft : left.Safe e) (hright : right.Safe e) :
    (Step.sequence left right).Safe e := by
  intro s node hs
  have hl := hleft s .empty hs
  have hr := hright _ (left s .empty).node hl.inBounds
  simp only [Step.sequence]
  split
  next herror => exact .halted hl.inBounds (hl.external _ herror)
  · exact .failed (hl.inBounds.restore hs.position)
  next hmatched =>
    split
    next herror => exact .halted hr.inBounds (hr.external _ herror)
    · exact .failed (hr.inBounds.restore hs.position)
    next hmatched' =>
      exact .matched hr.inBounds (Nat.le_trans (hl.forward hmatched) (hr.forward hmatched'))

/-- A choice is safe if its alternatives are. -/
theorem Safe.choice (hleft : left.Safe e) (hright : right.Safe e) :
    (Step.choice left right).Safe e := by
  intro s node hs
  have hl := hleft s .empty hs
  have hr := hright _ .empty (hl.inBounds.restore hs.position)
  rw [position_restore] at hr
  simp only [Step.choice]
  split
  next herror => exact .halted hl.inBounds (hl.external _ herror)
  next hmatched => exact .matched hl.inBounds (hl.forward hmatched)
  · split
    next herror => exact .halted hr.inBounds (hr.external _ herror)
    next hmatched => exact .matched hr.inBounds (hr.forward hmatched)
    · exact .failed (hr.inBounds.restore hs.position)

/-- Every turn of a loop goes on from where the one before it has ended. -/
theorem Safe.loop (hbody : body.Safe e) (max : Option Nat) (fuel count : Nat) {s : ParseState}
    (node : ParseTree) (hs : s.InBounds e.input) :
    let r := Step.loop max body fuel count s node
    r.state.InBounds e.input ∧ (r.error? = none → s.position ≤ r.state.position) ∧
      ∀ error, r.error? = some error → error.IsExternal e.limit := by
  induction fuel generalizing count s node with
  | zero => exact ⟨hs, by simp [Step.loop], by simp [Step.loop]⟩
  | succ fuel ih =>
    have hb := hbody s .empty hs
    simp only [Step.loop]
    split
    · split
      next error herror =>
        refine ⟨hb.inBounds, by simp, ?_⟩
        intro error' h
        cases h
        exact hb.external error herror
      · exact ⟨hb.inBounds.restore hs.position, by simp, by simp⟩
      next hmatched =>
        split
        · exact ⟨hb.inBounds, fun _ => hb.forward hmatched, by simp⟩
        · obtain ⟨hstate, hforward, hexternal⟩ := ih (count + 1) _ hb.inBounds
          exact ⟨hstate, fun h => Nat.le_trans (hb.forward hmatched) (hforward h), hexternal⟩
    · exact ⟨hs, by simp, by simp⟩

/-- A repetition is safe if its body is. -/
theorem Safe.repetition (hbody : body.Safe e) (min : Nat) (max : Option Nat) :
    (Step.repetition e min max body).Safe e := by
  intro s node hs
  obtain ⟨hstate, hforward, hexternal⟩ :=
    hbody.loop max (byteLength e.input - s.position + 1) 0 .empty hs
  simp only [Step.repetition]
  split
  next error herror => exact .halted hstate (hexternal error herror)
  next hnone =>
    split
    · exact .failed (hstate.restore hs.position)
    · exact .matched hstate (hforward hnone)

/-- A lookahead is safe if its body is. -/
theorem Safe.not (hbody : body.Safe e) : (Step.not body).Safe e := by
  intro s node hs
  have hb := hbody { s with suppress := s.suppress + 1 } .empty ⟨hs.position, hs.failure⟩
  have hafter : ParseState.InBounds e.input
      { (body { s with suppress := s.suppress + 1 } .empty).state with
        suppress := (body { s with suppress := s.suppress + 1 } .empty).state.suppress - 1 } :=
    ⟨hb.inBounds.position, hb.inBounds.failure⟩
  simp only [Step.not]
  split
  next herror => exact .halted hafter (hb.external _ herror)
  · exact .failed (hafter.restore hs.position)
  · exact .matched (hafter.restore hs.position) (by simp)

/-- Dropping the output of a safe step is safe. -/
theorem Safe.drop (hbody : body.Safe e) : (Step.drop body).Safe e := by
  intro s node hs
  have hb := hbody s .empty hs
  exact ⟨hb.inBounds, hb.forward, hb.external⟩

/-- A terminal is safe if its body is, since it reads its text between boundaries. -/
theorem Safe.terminal (hbody : body.Safe e) (decode : Bool) :
    (Step.terminal e decode body).Safe e := by
  intro s node hs
  have hb := hbody s .empty hs
  simp only [Step.terminal]
  split
  next herror => exact .halted hb.inBounds (hb.external _ herror)
  · exact .failed hb.inBounds
  next hmatched => exact .matched hb.inBounds (hb.forward hmatched)

/-- A label is safe if its body is. -/
theorem Safe.errorName (hbody : body.Safe e) (label : String) (promote : Bool) :
    (Step.errorName label promote body).Safe e := by
  intro s node hs
  have hb := hbody { s with labels := ⟨label, promote, s.position⟩ :: s.labels } node
    ⟨hs.position, hs.failure⟩
  exact ⟨⟨hb.inBounds.position, hb.inBounds.failure⟩, hb.forward, hb.external⟩

/-- A rule is safe if its body is. -/
theorem Safe.call (hbody : body.Safe e) (name : String) (capture : Bool) :
    (Step.call e name capture body).Safe e := by
  intro s node hs
  rcases Nat.lt_or_ge s.depth e.limit with hroom | hlimit
  · have hb := hbody (s.enterRule name) (.ofRule name s.position) ⟨hs.position, hs.failure⟩
    have hinside := hb.inBounds
    rw [call_of_lt hroom]
    dsimp only
    split
    next herror =>
      exact .halted ⟨hinside.position, hinside.failure⟩ (hb.external _ herror)
    · refine .failed (InBounds.restore ?_ hs.position)
      exact ⟨hinside.position, hinside.failure⟩
    next hmatched => exact .matched ⟨hinside.position, hinside.failure⟩ (hb.forward hmatched)
  · rw [call_of_le hlimit]
    exact safe_exhausted s node hs

end Step

/-- A parse whose entry ends safely halts for no other reason, and reports a failure at a
boundary. -/
theorem runStep_safe {e : Setting} {entry : Step} (hentry : (entry .initial .empty).Safe e 0) :
    (∀ error s, runStep e entry .initial = (.error error, s) → error.IsExternal e.limit) ∧
      ∀ parse s, runStep e entry .initial = (.ok parse, s) →
        ∀ offset ∈ parse.failureOffset, isBoundary e.input offset = true := by
  have hrestart : ParseState.initial.restart = .initial := rfl
  simp only [runStep, hrestart]
  constructor
  · intro error s hrun
    split at hrun
    next herror =>
      cases hrun
      exact hentry.external error herror
    · cases hrun
    · split at hrun
      · cases hrun
      · cases hrun
  · intro parse s hrun offset hoffset
    split at hrun
    · cases hrun
    · cases hrun
      cases hoffset
      exact hentry.inBounds.failure
    · split at hrun
      · cases hrun
        cases hoffset
      · cases hrun
        cases hoffset
        exact (hentry.inBounds.fail endOfInput).failure

namespace Interpreter

/-- Every operation is safe if its operands are and if the table holds its patterns. -/
theorem compositional_safe {e : Setting} {program : Program}
    (hcovers : ∀ rule ∈ program.rules, e.patterns.Covers rule.body) :
    Compositional e program fun c step => e.patterns.Covers c → step.Safe e where
  literal text _ := Step.safe_literal text
  pattern {source times id} hid hc := by
    obtain ⟨found, hfound, hentry⟩ :=
      hc (source, times) (by simp [Combinator.patterns, Combinator.preorder])
    obtain rfl := Option.some.inj (hid.symm.trans hfound)
    exact Step.safe_pattern hentry
  uncompiled {source times} hnone hc := by
    obtain ⟨found, hfound, _⟩ :=
      hc (source, times) (by simp [Combinator.patterns, Combinator.preorder])
    simp [hnone] at hfound
  sequence hleft hright hc :=
    (hleft (hc.operand (.head _))).sequence (hright (hc.operand (.tail _ (.head _))))
  choice hleft hright hc :=
    (hleft (hc.operand (.head _))).choice (hright (hc.operand (.tail _ (.head _))))
  repetition min max _ _ hbody hc := (hbody (hc.operand (.head _))).repetition min max
  not hbody hc := (hbody (hc.operand (.head _))).not
  drop hbody hc := (hbody (hc.operand (.head _))).drop
  terminal decode _ _ hbody hc := (hbody (hc.operand (.head _))).terminal decode
  errorName label promote _ _ hbody hc :=
    (hbody (hc.operand (.head _))).errorName label promote
  call hrule hbody _ := (hbody (hcovers _ (List.mem_of_getElem? hrule))).call _ _
  exhausted _ _ := Step.safe_exhausted

/-- An evaluation starts within the input, and the rules and patterns it refers to exist. -/
structure Evaluation.Ready (e : Setting) (program : Program) (v : Evaluation) : Prop where
  inBounds : v.state.InBounds e.input
  resolves : program.Resolves v.combinator
  covers : e.patterns.Covers v.combinator

variable {e : Setting} {program : Program} {v w : Evaluation}

/-- What is ready to be evaluated ends safely. -/
theorem Evaluation.Ready.outcome (hcovers : ∀ rule ∈ program.rules, e.patterns.Covers rule.body)
    (h : v.Ready e program) : (v.outcome e program).Safe e v.state.position :=
  (compositional_safe hcovers).eval_run v.budget h.resolves h.covers v.state v.node h.inBounds

/-- Every turn of a loop begins within the input. -/
theorem BeginsTurn.inBounds {max : Option Nat} {body : Step} {s t : ParseState} {count : Nat}
    (h : BeginsTurn max body s count t) (hbody : body.Safe e) (hs : s.InBounds e.input) :
    t.InBounds e.input := by
  induction h with
  | first => exact hs
  | next _ _ _ _ ih => exact (hbody _ _ ih).inBounds

/-- Whatever an evaluation starts is as ready as the evaluation itself. -/
theorem Evaluation.Ready.starts (hcovers : ∀ rule ∈ program.rules, e.patterns.Covers rule.body)
    (hstart : Starts e program v w) (h : v.Ready e program) : w.Ready e program := by
  obtain ⟨hs, hresolves, hc⟩ := h
  cases hstart with
  | sequenceLeft =>
    exact ⟨hs, (Program.resolves_sequence.mp hresolves).1, hc.operand (.head _)⟩
  | @sequenceRight budget left right s node l hleft hmatched =>
    obtain ⟨hl, hr⟩ := Program.resolves_sequence.mp hresolves
    have hready : Evaluation.Ready e program ⟨budget, left, s, .empty⟩ :=
      ⟨hs, hl, hc.operand (.head _)⟩
    subst hleft
    exact ⟨(hready.outcome hcovers).inBounds, hr, hc.operand (.tail _ (.head _))⟩
  | choiceLeft =>
    exact ⟨hs, (Program.resolves_choice.mp hresolves).1, hc.operand (.head _)⟩
  | @choiceRight budget left right s node l hleft hfailed =>
    obtain ⟨hl, hr⟩ := Program.resolves_choice.mp hresolves
    have hready : Evaluation.Ready e program ⟨budget, left, s, .empty⟩ :=
      ⟨hs, hl, hc.operand (.head _)⟩
    subst hleft
    exact ⟨(hready.outcome hcovers).inBounds.restore hs.position, hr,
      hc.operand (.tail _ (.head _))⟩
  | @turn budget min count max body s t node hturn =>
    have hbody := Program.resolves_repetition.mp hresolves
    have hcovered := hc.operand (.head _)
    have hsafe : Step.Safe e (eval e (Interpreter.call e program budget) body) :=
      (compositional_safe hcovers).eval_run budget hbody hcovered
    exact ⟨hturn.inBounds hsafe hs, hbody, hcovered⟩
  | not =>
    exact ⟨⟨hs.position, hs.failure⟩, Program.resolves_not.mp hresolves, hc.operand (.head _)⟩
  | drop => exact ⟨hs, Program.resolves_drop.mp hresolves, hc.operand (.head _)⟩
  | terminal => exact ⟨hs, Program.resolves_terminal.mp hresolves, hc.operand (.head _)⟩
  | errorName =>
    exact ⟨⟨hs.position, hs.failure⟩, Program.resolves_errorName.mp hresolves,
      hc.operand (.head _)⟩
  | call hrule _ =>
    exact ⟨⟨hs.position, hs.failure⟩, Program.resolves_body hrule,
      hcovers _ (List.mem_of_getElem? hrule)⟩

/-- An evaluation cuts the input only where it can be cut, refers only to what exists and ends
without a fault of the program. -/
structure Evaluation.Safe (e : Setting) (program : Program) (v : Evaluation) : Prop where
  /-- The cursor stands between two characters, before the evaluation and behind it. -/
  starts : v.state.position ≤ byteLength e.input ∧ isBoundary e.input v.state.position = true
  stops : (v.outcome e program).state.position ≤ byteLength e.input ∧
    isBoundary e.input (v.outcome e program).state.position = true
  /-- What follows the cursor can be compared with a literal. -/
  rest : (slice? e.input v.state.position (byteLength e.input)).isSome = true
  /-- What was matched can become the text of a leaf or of a terminal. -/
  text : (v.outcome e program).verdict = .matched →
    (slice? e.input v.state.position (v.outcome e program).state.position).isSome = true
  /-- What was found at the furthest failure can be told. -/
  found : (slice? e.input (v.outcome e program).state.failure.position
    (byteLength e.input)).isSome = true
  rules : ∀ id, v.combinator = .call id → (program.rule? id).isSome = true
  patterns : ∀ source times, v.combinator = .pattern source times →
    ∃ id, e.patterns.indexOf? source times = some id ∧ (e.patterns.entry? id).isSome = true
  external : ∀ error, (v.outcome e program).verdict = .halted error → error.IsExternal e.limit

/-- What is ready to be evaluated is evaluated safely in all its parts. -/
theorem Evaluation.Ready.safe (hcovers : ∀ rule ∈ program.rules, e.patterns.Covers rule.body)
    (h : v.Ready e program) : v.Safe e program := by
  have hends := h.outcome hcovers
  have hstart := h.inBounds.position
  have hstop := hends.inBounds.position
  refine ⟨⟨le_byteLength_of_isBoundary hstart, hstart⟩,
    ⟨le_byteLength_of_isBoundary hstop, hstop⟩, isSome_slice?_rest hstart, ?_,
    isSome_slice?_rest hends.inBounds.failure, ?_, ?_, hends.external⟩
  · intro hmatched
    exact isSome_slice? hstart hstop (hends.forward hmatched)
  · rintro id hcall
    have hresolves := h.resolves
    rw [hcall] at hresolves
    exact hresolves id (by simp)
  · intro source times hpattern
    have hcovered := h.covers
    rw [hpattern] at hcovered
    exact hcovered (source, times) (by simp [Combinator.patterns, Combinator.preorder])

/-- A parse from a rule of the program evaluates nothing that is not safe. If it is brought to a
halt then by its limit or by a search of its input, and if it fails then at a place of its
input. -/
theorem parse_stays_safe {i : Interpreter} {rule : RuleId} {input : List Char}
    (hrule : (i.program.rule? rule).isSome = true) :
    (∀ v, i.GoesThrough rule input v → v.Safe (i.setting input) i.program) ∧
      (∀ error, i.parseFrom rule input = .error error → error.IsExternal i.limit) ∧
      ∀ parse events, i.parseFrom rule input = .ok (parse, events) →
        ∀ offset ∈ parse.failureOffset, (slice? input offset (byteLength input)).isSome = true := by
  have hcovers := i.covers_of_mem
  have hfirst : (i.firstEvaluation rule).Ready (i.setting input) i.program :=
    ⟨ParseState.inBounds_initial input, by simpa [Program.Resolves, firstEvaluation] using hrule,
      by simp [PatternTable.Covers, firstEvaluation, Combinator.patterns, Combinator.preorder]⟩
  have hentry : (Interpreter.call (i.setting input) i.program i.limit rule .initial .empty).Safe
      (i.setting input) 0 := hfirst.outcome hcovers
  obtain ⟨herrors, hoffsets⟩ := runStep_safe hentry
  refine ⟨?_, ?_, ?_⟩
  · intro v hv
    exact (hv.induct hfirst (Evaluation.Ready.starts hcovers)).safe hcovers
  · intro error herror
    simp only [parseFrom] at herror
    split at herror
    · cases herror
    next s hrun =>
      cases herror
      exact herrors error s hrun
  · intro parse events hparse offset hoffset
    obtain ⟨s, hrun, _⟩ := parseFrom_eq_ok hparse
    exact isSome_slice?_rest (hoffsets parse s hrun offset hoffset)

/-- Characters other than an `x`, and then a `z` or an `x`. -/
def upToX : Interpreter where
  program :=
    ⟨[⟨"S", .sequence (.pattern "[^x]+" 1) (.choice (.call ⟨1⟩) (.literal "x")), true⟩,
      ⟨"T", .terminal false (.literal "z"), true⟩], ⟨0⟩, by decide⟩
  patterns := (PatternTable.ofPatterns [("[^x]+", 1)]).toOption.getD .empty
  limit := 8
  compiled := rfl

/-- The parse of a word with characters of two bytes fails behind the fifth byte, and it has cut no
character on the way there. -/
theorem upToX_stays_safe : (upToX.program.rule? ⟨0⟩).isSome = true ∧
    (∃ parse events, upToX.parseFrom ⟨0⟩ "ééxq".toList = .ok (parse, events) ∧
      parse.failureOffset = some 5 ∧ (slice? "ééxq".toList 5 6).isSome = true) ∧
    (∀ v, upToX.GoesThrough ⟨0⟩ "ééxq".toList v →
      v.Safe (upToX.setting "ééxq".toList) upToX.program) ∧
    ∀ error, upToX.parseFrom ⟨0⟩ "ééxq".toList = .error error → error.IsExternal 8 := by
  have hrule : (upToX.program.rule? ⟨0⟩).isSome = true := rfl
  obtain ⟨hsafe, herrors, hoffsets⟩ := @parse_stays_safe upToX ⟨0⟩ "ééxq".toList hrule
  have hfails : (upToX.parseFrom ⟨0⟩ "ééxq".toList).toOption.bind (fun r => r.1.failureOffset) =
      some 5 := by decide +kernel
  refine ⟨hrule, ?_, hsafe, herrors⟩
  cases hparse : upToX.parseFrom ⟨0⟩ "ééxq".toList with
  | error error =>
    rw [hparse] at hfails
    cases hfails
  | ok result =>
    obtain ⟨parse, events⟩ := result
    rw [hparse] at hfails
    exact ⟨parse, events, rfl, hfails, hoffsets parse events hparse 5 hfails⟩

end Interpreter

end Peg
