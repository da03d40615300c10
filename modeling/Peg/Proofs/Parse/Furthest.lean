import Peg.Proofs.Parse.Cursor
import Peg.Proofs.Parse.PatternTable
import Peg.Proofs.Parse.Runs
import Peg.Proofs.Regex.MatchEnd

/-!
# Failures are reported where the input was last understood

Without lookahead, the furthest failure keeps up with the cursor: either something is expected at
the furthest place that the cursor has been, or nothing is expected and the cursor is at that place
now. A step that fails has failed at one of its leaves, so behind it something is expected there.
-/

namespace Peg

open Peg.Text

namespace Combinator

/-- No lookahead occurs. -/
def LookaheadFree (c : Combinator) : Prop :=
  ∀ body, .not body ∉ c.preorder

/-- No repetition asks for more than one turn, or for more turns than it allows. -/
def ShortLoops (c : Combinator) : Prop :=
  ∀ min max body, .repetition min max body ∈ c.preorder → min ≤ 1 ∧ ∀ m ∈ max, min ≤ m

/-- A combinator without lookahead whose repetitions ask for at most one turn. -/
def Plain (c : Combinator) : Prop :=
  c.LookaheadFree ∧ c.ShortLoops

/-- A combinator is the first of its own parts. -/
theorem self_mem_preorder (c : Combinator) : c ∈ c.preorder := by
  cases c <;> simp [preorder]

/-- The operands of a plain combinator are plain. -/
theorem Plain.operand {c d : Combinator} (h : c.Plain) (hd : d ∈ c.operands) : d.Plain :=
  ⟨fun body hbody => h.1 body (preorder_subset hd hbody),
    fun min max body hbody => h.2 min max body (preorder_subset hd hbody)⟩

end Combinator

namespace FurthestFailure

/-- A recorded failure is the furthest one unless an earlier one was further on. -/
theorem position_record (f : FurthestFailure) (position : Nat) (label : String) :
    (f.record position label).position = max f.position position := by
  have hmax : position ≤ f.position → f.position = max f.position position :=
    fun h => (Nat.max_eq_left h).symm
  simp only [record]
  split
  · exact hmax (by omega)
  split
  next hafter => exact (Nat.max_eq_right (Nat.le_of_lt hafter)).symm
  split
  · exact hmax (by omega)
  · exact hmax (by omega)

/-- Reaching a place does not move the furthest failure. -/
theorem position_reached (f : FurthestFailure) (stop : Nat) :
    (f.reached stop).position = f.position := by
  unfold reached
  split
  · rfl
  · rfl

/-- Behind a failure something is expected, unless it lies before the furthest one. -/
theorem expected_record_ne_nil {f : FurthestFailure} {position : Nat} {label : String}
    (h : position < f.position → f.expected ≠ []) : (f.record position label).expected ≠ [] := by
  simp only [record]
  split
  next hbefore => exact h hbefore
  split
  · simp
  split
  next hknown =>
    intro hnil
    simp [hnil] at hknown
  · simp

end FurthestFailure

namespace ParseState

/-- A match does not move the furthest failure. -/
@[simp] theorem failurePosition_accept (s : ParseState) (stop : Nat) :
    (s.accept stop).failure.position = s.failure.position := by
  simp only [accept]
  split
  · exact FurthestFailure.position_reached _ _
  · rfl

/-- Outside lookaheads a failure is never beyond the furthest one. -/
theorem failurePosition_fail (s : ParseState) (natural : String) :
    (s.fail natural).failure.position =
      if 0 < s.suppress then s.failure.position else max s.failure.position s.position := by
  by_cases hmute : 0 < s.suppress
  · simp [fail, emit, hmute]
  · simp [fail, emit, hmute, FurthestFailure.position_record]

/-- The furthest failure keeps up with the cursor, outside lookaheads. -/
structure Current (s : ParseState) : Prop where
  audible : s.suppress = 0
  traced : s.Traced
  failure_le : s.failure.position ≤ s.furthest
  expected : s.failure.expected ≠ [] → s.failure.position = s.furthest
  unexpected : s.failure.expected = [] → s.position = s.furthest

/-- Something is expected at the furthest place of the cursor. -/
structure Failing (s : ParseState) : Prop where
  audible : s.suppress = 0
  traced : s.Traced
  position_eq : s.failure.position = s.furthest
  expected : s.failure.expected ≠ []

variable {s : ParseState}

/-- Before anything is read, nothing has failed further on than the cursor. -/
theorem current_initial : initial.Current :=
  ⟨rfl, rfl, Nat.le_refl _, fun h => absurd rfl h, fun _ => rfl⟩

/-- Where something is expected at the furthest place, the furthest failure is up to date. -/
theorem Failing.current (h : s.Failing) : s.Current :=
  ⟨h.audible, h.traced, Nat.le_of_eq h.position_eq, fun _ => h.position_eq,
    fun hnil => absurd hnil h.expected⟩

/-- Moving the cursor back leaves what is expected at the furthest place. -/
theorem Failing.restore (h : s.Failing) {target : Nat} (htarget : target ≤ s.furthest) :
    (s.restore target).Failing where
  audible := by simpa using h.audible
  traced := h.traced.restore target
  position_eq := by simpa [furthest_restore htarget] using h.position_eq
  expected := by simpa using h.expected

/-- A leaf that fails leaves something expected at the furthest place. -/
theorem Current.fail (h : s.Current) (natural : String) : (s.fail natural).Failing := by
  have hle := h.traced.position_le
  have hbound := h.failure_le
  have hfailure : (s.fail natural).failure =
      s.failure.record s.position (s.labelAt s.position natural) := by
    simp [ParseState.fail, emit, h.audible, labelAt]
  have hbefore : s.position < s.failure.position → s.failure.expected ≠ [] := by
    intro hlt hnil
    have := h.unexpected hnil
    omega
  have haudible : (s.fail natural).suppress = 0 := by
    simp [ParseState.fail, emit, h.audible]
  refine ⟨haudible, h.traced.fail natural, ?_, ?_⟩
  · rw [hfailure, FurthestFailure.position_record, furthest_fail]
    by_cases hnil : s.failure.expected = []
    · have := h.unexpected hnil
      omega
    · have := h.expected hnil
      omega
  · rw [hfailure]
    exact FurthestFailure.expected_record_ne_nil hbefore

/-- A leaf that matches keeps the furthest failure up to date. -/
theorem Current.accept (h : s.Current) {stop : Nat} (hstop : s.position ≤ stop) :
    (s.accept stop).Current := by
  have hbound := h.failure_le
  have hfailure : (s.accept stop).failure = s.failure.reached stop := by
    simp [ParseState.accept, h.audible]
  refine ⟨h.audible, .accept s stop, ?_, ?_, ?_⟩
  · rw [hfailure, furthest_accept, FurthestFailure.reached]
    split
    · exact Nat.le_trans hbound (Nat.le_max_right _ _)
    · exact Nat.le_trans hbound (Nat.le_max_right _ _)
  · rw [hfailure, furthest_accept, FurthestFailure.reached]
    split
    next => simp
    next hpast =>
      intro hexpected
      have := h.expected hexpected
      omega
  · rw [hfailure, furthest_accept, FurthestFailure.reached, position_accept]
    by_cases hnil : s.failure.expected = []
    · have := h.unexpected hnil
      omega
    · have := h.expected hnil
      split
      · omega
      next => exact fun hempty => absurd hempty hnil

/-- Entering a rule leaves the furthest failure up to date. -/
theorem Current.enterRule (h : s.Current) (name : String) : (s.enterRule name).Current :=
  ⟨h.audible, h.traced, h.failure_le, h.expected, h.unexpected⟩

/-- Leaving a rule leaves the furthest failure up to date. -/
theorem Current.exitRule (h : s.Current) (name : String) (matched : Bool) :
    (s.exitRule name matched).Current :=
  ⟨h.audible, h.traced, h.failure_le, h.expected, h.unexpected⟩

/-- Leaving a rule leaves what is expected at the furthest place. -/
theorem Failing.exitRule (h : s.Failing) (name : String) (matched : Bool) :
    (s.exitRule name matched).Failing :=
  ⟨h.audible, h.traced, h.position_eq, h.expected⟩

end ParseState

namespace Outcome

open ParseState

/-- Behind a match the furthest failure is up to date, and behind a failure something is expected at
the furthest place. -/
def UpToDate (o : Outcome) : Prop :=
  match o.verdict with
  | .matched => o.state.Current
  | .failed => o.state.Failing
  | .halted _ => True

variable {o : Outcome}

/-- Behind a match the furthest failure is up to date. -/
theorem UpToDate.current (h : o.UpToDate) (hverdict : o.verdict = .matched) : o.state.Current := by
  rw [UpToDate, hverdict] at h
  exact h

/-- Behind a failure something is expected at the furthest place. -/
theorem UpToDate.failing (h : o.UpToDate) (hverdict : o.verdict = .failed) : o.state.Failing := by
  rw [UpToDate, hverdict] at h
  exact h

end Outcome

namespace Step

open ParseState

/-- From a state with an up-to-date furthest failure the step keeps it up to date. -/
def Reports (step : Step) : Prop :=
  ∀ (s : ParseState) (node : ParseTree), s.Current →
    s.furthest ≤ (step s node).state.furthest ∧ (step s node).UpToDate

/-- A step that halts has nothing to report. -/
theorem reports_halt (error : ParseError) : (halt error).Reports :=
  fun _ _ _ => ⟨Nat.le_refl _, trivial⟩

/-- Accepting input moves the furthest place on with the cursor. -/
theorem reports_accept (e : Setting) {s : ParseState} {stop : Nat} {node : ParseTree}
    (hs : s.Current) (hstop : s.position ≤ stop) :
    s.furthest ≤ (accept e stop s node).state.furthest ∧ (accept e stop s node).UpToDate :=
  ⟨Nat.le_max_right _ _, hs.accept hstop⟩

/-- A rejection makes something expected at the place of the cursor, or leaves what is expected
further on. -/
theorem reports_reject (natural : String) : (reject natural).Reports :=
  fun _ _ hs => ⟨Nat.le_of_eq (furthest_fail _ _).symm, hs.fail natural⟩

/-- A literal keeps the furthest failure up to date. -/
theorem reports_literal (e : Setting) (text : String) : (literal e text).Reports := by
  intro s node hs
  unfold literal
  split
  · exact reports_accept e hs (Nat.le_add_right _ _)
  · exact reports_reject _ s node hs

/-- A pattern keeps the furthest failure up to date. -/
theorem reports_pattern (e : Setting) (id : Nat) : (pattern e id).Reports := by
  intro s node hs
  unfold pattern
  split
  · exact ⟨Nat.le_refl _, trivial⟩
  next stop hmatch =>
    obtain ⟨entry, _, hentry⟩ := PatternTable.matchAt_eq_ok_iff.mp hmatch
    exact reports_accept e hs (Regex.Automaton.matchAt_stop hentry).1
  · exact reports_reject _ s node hs

variable {left right body : Step}

/-- A sequence keeps the furthest failure up to date if its parts do. -/
theorem Reports.sequence (hleft : left.Reports) (hright : right.Reports) :
    (Step.sequence left right).Reports := by
  intro s node hs
  have hstart := hs.traced.position_le
  obtain ⟨hle, hl⟩ := hleft s .empty hs
  simp only [Step.sequence]
  split
  · exact ⟨hle, trivial⟩
  next hverdict =>
    rw [furthest_restore (by omega)]
    exact ⟨hle, (hl.failing hverdict).restore (by omega)⟩
  next hverdict =>
    obtain ⟨hle', hr⟩ := hright _ (left s .empty).node (hl.current hverdict)
    have hfurther := Nat.le_trans hle hle'
    split
    · exact ⟨hfurther, trivial⟩
    next hverdict' =>
      rw [furthest_restore (by omega)]
      exact ⟨hfurther, (hr.failing hverdict').restore (by omega)⟩
    next hverdict' => exact ⟨hfurther, hr.current hverdict'⟩

/-- A choice keeps the furthest failure up to date if its alternatives do. -/
theorem Reports.choice (hleft : left.Reports) (hright : right.Reports) :
    (Step.choice left right).Reports := by
  intro s node hs
  have hstart := hs.traced.position_le
  obtain ⟨hle, hl⟩ := hleft s .empty hs
  simp only [Step.choice]
  split
  · exact ⟨hle, trivial⟩
  next hverdict => exact ⟨hle, hl.current hverdict⟩
  next hverdict =>
    have hback : ((left s .empty).state.restore s.position).Failing :=
      (hl.failing hverdict).restore (by omega)
    obtain ⟨hle', hr⟩ := hright _ .empty hback.current
    rw [furthest_restore (by omega)] at hle'
    have hfurther := Nat.le_trans hle hle'
    split
    · exact ⟨hfurther, trivial⟩
    next hverdict' => exact ⟨hfurther, hr.current hverdict'⟩
    next hverdict' =>
      rw [furthest_restore (by omega)]
      exact ⟨hfurther, (hr.failing hverdict').restore (by omega)⟩

/-- A loop keeps the furthest failure up to date. If it ends without a turn although it may take
one, its body has failed. -/
theorem Reports.loop (hbody : body.Reports) (max : Option Nat) (fuel count : Nat)
    {s : ParseState} (node : ParseTree) (hs : s.Current) :
    s.furthest ≤ (Step.loop max body fuel count s node).state.furthest ∧
      ((Step.loop max body fuel count s node).error? = none →
        (Step.loop max body fuel count s node).state.Current ∧
          count ≤ (Step.loop max body fuel count s node).count ∧
          ((Step.loop max body fuel count s node).count = count → 0 < fuel →
            mayContinue max count = true →
            (Step.loop max body fuel count s node).state.Failing)) := by
  induction fuel generalizing count s node with
  | zero =>
    simp only [Step.loop]
    exact ⟨Nat.le_refl _, fun _ => ⟨hs, Nat.le_refl _, fun _ hfuel => absurd hfuel (by simp)⟩⟩
  | succ fuel ih =>
    have hstart := hs.traced.position_le
    obtain ⟨hle, hb⟩ := hbody s .empty hs
    cases hmore : mayContinue max count with
    | false =>
      rw [loop_of_full hmore]
      exact ⟨Nat.le_refl _, fun _ => ⟨hs, Nat.le_refl _, fun _ _ hmay => absurd hmay (by simp)⟩⟩
    | true =>
      cases hverdict : (body s .empty).verdict with
      | halted error =>
        rw [loop_of_halted hmore hverdict]
        exact ⟨hle, fun hnone => absurd hnone (Option.some_ne_none error)⟩
      | failed =>
        have hback : ((body s .empty).state.restore s.position).Failing :=
          (hb.failing hverdict).restore (by omega)
        rw [loop_of_failed hmore hverdict, furthest_restore (by omega)]
        exact ⟨hle, fun _ => ⟨hback.current, Nat.le_refl _, fun _ _ _ => hback⟩⟩
      | matched =>
        have hcurrent := hb.current hverdict
        by_cases hidle : (body s .empty).state.position = s.position
        · rw [loop_of_idle hmore hverdict hidle]
          exact ⟨hle, fun _ => ⟨hcurrent, Nat.le_succ _, fun hcount => by simp at hcount⟩⟩
        · rw [loop_of_further hmore hverdict hidle]
          obtain ⟨hle', hends⟩ := ih (count + 1) (node.splice (body s .empty).node) hcurrent
          refine ⟨by omega, fun hnone => ?_⟩
          obtain ⟨hrest, hcount, _⟩ := hends hnone
          exact ⟨hrest, by omega, fun heq => by omega⟩

/-- A repetition that needs at most one turn keeps the furthest failure up to date if its body
does. -/
theorem Reports.repetition (hbody : body.Reports) (e : Setting) {min : Nat} {max : Option Nat}
    (hmin : min ≤ 1) (hmax : ∀ m ∈ max, min ≤ m) :
    (Step.repetition e min max body).Reports := by
  intro s node hs
  have hstart := hs.traced.position_le
  obtain ⟨hle, hends⟩ := hbody.loop max (byteLength e.input - s.position + 1) 0 .empty hs
  simp only [Step.repetition]
  split
  · exact ⟨hle, trivial⟩
  next hnone =>
    obtain ⟨hcurrent, _, hidle⟩ := hends hnone
    split
    next hfew =>
      -- Fewer turns than asked for are none at all, and the loop might have taken one.
      have hmore : mayContinue max 0 = true := by
        rw [mayContinue_eq_true_iff]
        intro m hm
        have hle := hmax m hm
        omega
      have hfailing := hidle (by omega) (Nat.succ_pos _) hmore
      rw [furthest_restore (by omega)]
      exact ⟨hle, hfailing.restore (by omega)⟩
    · exact ⟨hle, hcurrent⟩

/-- Dropping output does not touch the furthest failure. -/
theorem Reports.drop (hbody : body.Reports) : (Step.drop body).Reports :=
  fun s _ hs => hbody s .empty hs

/-- Joining output does not touch the furthest failure. -/
theorem Reports.terminal (hbody : body.Reports) (e : Setting) (decode : Bool) :
    (Step.terminal e decode body).Reports := by
  intro s node hs
  obtain ⟨hle, hb⟩ := hbody s .empty hs
  simp only [Step.terminal]
  split
  · exact ⟨hle, trivial⟩
  next hverdict => exact ⟨hle, hb.failing hverdict⟩
  next hverdict => exact ⟨hle, hb.current hverdict⟩

/-- A label keeps the furthest failure up to date, as it only rewords what is expected. -/
theorem Reports.errorName (hbody : body.Reports) (label : String) (promote : Bool) :
    (Step.errorName label promote body).Reports := by
  intro s node hs
  obtain ⟨hle, hb⟩ :=
    hbody { s with labels := ⟨label, promote, s.position⟩ :: s.labels } node
      ⟨hs.audible, hs.traced, hs.failure_le, hs.expected, hs.unexpected⟩
  refine ⟨hle, ?_⟩
  simp only [Step.errorName, Outcome.UpToDate]
  split
  next hverdict =>
    have h := hb.current hverdict
    exact ⟨h.audible, h.traced, h.failure_le, h.expected, h.unexpected⟩
  next hverdict =>
    have h := hb.failing hverdict
    exact ⟨h.audible, h.traced, h.position_eq, h.expected⟩
  · trivial

/-- A rule keeps the furthest failure up to date if its body does. -/
theorem Reports.call (hbody : body.Reports) (e : Setting) (name : String) (capture : Bool) :
    (Step.call e name capture body).Reports := by
  intro s node hs
  have hstart := hs.traced.position_le
  rcases Nat.lt_or_ge s.depth e.limit with hroom | hlimit
  · obtain ⟨hle, hb⟩ :=
      hbody (s.enterRule name) (.ofRule name s.position) (hs.enterRule name)
    rw [furthest_enterRule] at hle
    rw [call_of_lt hroom]
    dsimp only
    split
    · exact ⟨hle, trivial⟩
    next hverdict =>
      rw [furthest_restore (by rw [furthest_exitRule]; omega), furthest_exitRule]
      exact ⟨hle,
        ((hb.failing hverdict).exitRule name false).restore (by rw [furthest_exitRule]; omega)⟩
    next hverdict =>
      rw [furthest_exitRule]
      exact ⟨hle, (hb.current hverdict).exitRule name true⟩
  · rw [call_of_le hlimit]
    exact ⟨Nat.le_refl _, trivial⟩

end Step

namespace Interpreter

/-- In a program of plain rules, every run of a plain combinator keeps the furthest failure up to
date. -/
theorem compositional_reports (e : Setting) (program : Program)
    (hplain : ∀ rule ∈ program.rules, rule.body.Plain) :
    Compositional e program fun c step => c.Plain → step.Reports where
  literal text _ := Step.reports_literal e text
  pattern _ _ := Step.reports_pattern e _
  uncompiled _ _ := Step.reports_halt _
  sequence hleft hright hc :=
    (hleft (hc.operand (.head _))).sequence (hright (hc.operand (.tail _ (.head _))))
  choice hleft hright hc :=
    (hleft (hc.operand (.head _))).choice (hright (hc.operand (.tail _ (.head _))))
  repetition min max body _ hbody hc := by
    obtain ⟨hmin, hmax⟩ := hc.2 min max body (Combinator.self_mem_preorder _)
    exact (hbody (hc.operand (.head _))).repetition e hmin hmax
  not {body} _ _ hc := absurd (Combinator.self_mem_preorder _) (hc.1 body)
  drop hbody hc := (hbody (hc.operand (.head _))).drop
  terminal decode _ _ hbody hc := (hbody (hc.operand (.head _))).terminal e decode
  errorName label promote _ _ hbody hc := (hbody (hc.operand (.head _))).errorName label promote
  call hrule hbody _ := (hbody (hplain _ (List.mem_of_getElem? hrule))).call e _ _
  exhausted _ _ := Step.reports_halt _

end Interpreter

end Peg
