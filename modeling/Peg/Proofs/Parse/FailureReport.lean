import Peg.Proofs.Parse.Furthest

/-!
# The report about a failed parse

A parse that fails is reported once, at the furthest place that the cursor has been, and the report
says what would have been accepted there.
-/

namespace Peg

open Peg.Text

namespace FurthestFailure

/-- When something is expected, the description says so. -/
theorem describe_of_expected {f : FurthestFailure} (h : f.expected ≠ []) (input : List Char) :
    f.describe input =
      "Expected " ++ phrase f.expected ++ ", found " ++ found input f.position := by
  have hempty : f.expected.isEmpty = false := by
    rw [List.isEmpty_eq_false_iff]
    exact h
  rw [describe, hempty]
  exact if_neg (by simp)

end FurthestFailure

/-- A parse that does not succeed is reported from the state behind it, in which something is
expected at the furthest place. -/
theorem runStep_failure {e : Setting} {entry : Step} {s : ParseState} {parse : Parse}
    (h : runStep e entry .initial = (.ok parse, s)) (hfailed : parse.success = false)
    (hentry : entry.Reports) :
    s.Failing ∧ parse.failureOffset = some s.failure.position ∧
      parse.messages = [.error (s.failure.describe e.input)
        ((LineIndex.ofChars e.input).position s.failure.position)] := by
  obtain ⟨_, hreports⟩ := hentry .initial .empty ParseState.current_initial
  have hrestart : ParseState.initial.restart = .initial := rfl
  simp only [runStep, hrestart] at h
  split at h
  · cases h
  next hverdict =>
    cases h
    exact ⟨hreports.failing hverdict, rfl, rfl⟩
  next hverdict =>
    split at h
    · cases h
      cases hfailed
    · cases h
      exact ⟨(hreports.current hverdict).fail endOfInput, rfl, rfl⟩

namespace Interpreter

/-- A failed parse of a program of plain rules is reported at the furthest place that the cursor has
been, by one message at its line and column that says what was expected there. -/
theorem failure_at_furthest_place {i : Interpreter} {rule : RuleId} {input : List Char}
    {parse : Parse} {events : List Event}
    (hplain : ∀ rule ∈ i.program.rules, rule.body.Plain)
    (hrule : (i.program.rule? rule).isSome = true)
    (hparse : i.parseFrom rule input = .ok (parse, events)) (hfailed : parse.success = false) :
    ∃ furthest expected, expected ≠ [] ∧
      furthest ∈ Event.places events ∧ (∀ p ∈ Event.places events, p ≤ furthest) ∧
      (Event.places events).getLast? = some parse.root.stop ∧
      parse.failureOffset = some furthest ∧
      parse.messages = [.error
        ("Expected " ++ FurthestFailure.phrase expected ++ ", found " ++
          FurthestFailure.found input furthest)
        ((LineIndex.ofChars input).position furthest)] := by
  have hlast := getLast?_places_of_parse hrule hparse
  obtain ⟨s, hrun, rfl⟩ := parseFrom_eq_ok hparse
  have hreports := (compositional_reports (i.setting input) i.program hplain).call_run i.limit hrule
    ⟨by simp [Combinator.LookaheadFree, Combinator.preorder],
      by simp [Combinator.ShortLoops, Combinator.preorder]⟩
  obtain ⟨hfailing, hoffset, hmessages⟩ := runStep_failure hrun hfailed hreports
  have hposition : s.failure.position = Event.furthest s.trace := hfailing.position_eq
  refine ⟨s.failure.position, s.failure.expected, hfailing.expected, ?_, ?_, hlast, hoffset, ?_⟩
  · rw [hposition]
    exact Event.furthest_mem s.trace
  · intro p hp
    rw [hposition]
    exact Event.le_furthest hp
  · rw [hmessages, FurthestFailure.describe_of_expected hfailing.expected]
    rfl

/-- An `a`, letters `b` and a `c`; or else a `d`. -/
def lettersOrD : Interpreter where
  program :=
    ⟨[⟨"S", .choice (.sequence (.literal "a") (.call ⟨1⟩)) (.literal "d"), true⟩,
      ⟨"T", .sequence (.repetition 0 none (.literal "b")) (.literal "c"), true⟩], ⟨0⟩, by decide⟩
  patterns := .empty
  limit := 8
  compiled := rfl

/-- The parse of `abbd` goes back to the start for the `d`, and is reported behind the letters. -/
theorem lettersOrD_reports_abbd : ∃ parse events,
    (∀ rule ∈ lettersOrD.program.rules, rule.body.Plain) ∧
      (lettersOrD.program.rule? ⟨0⟩).isSome = true ∧
      lettersOrD.parseFrom ⟨0⟩ "abbd".toList = .ok (parse, events) ∧ parse.success = false ∧
      Event.places events = [0, 1, 2, 3, 1, 0] ∧
      ∃ furthest expected, expected ≠ [] ∧
        furthest ∈ Event.places events ∧ (∀ p ∈ Event.places events, p ≤ furthest) ∧
        (Event.places events).getLast? = some parse.root.stop ∧
        parse.failureOffset = some furthest ∧
        parse.messages = [.error
          ("Expected " ++ FurthestFailure.phrase expected ++ ", found " ++
            FurthestFailure.found "abbd".toList furthest)
          ((LineIndex.ofChars "abbd".toList).position furthest)] := by
  have hplain : ∀ rule ∈ lettersOrD.program.rules, rule.body.Plain := by
    simp +contextual [lettersOrD, Combinator.Plain, Combinator.LookaheadFree,
      Combinator.ShortLoops, Combinator.preorder]
  have hrule : (lettersOrD.program.rule? ⟨0⟩).isSome = true := rfl
  exact ⟨_, _, hplain, hrule, rfl, rfl, rfl, failure_at_furthest_place hplain hrule rfl rfl⟩

end Interpreter

end Peg
