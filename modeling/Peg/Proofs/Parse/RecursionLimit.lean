import Peg.Proofs.Parse.Lockstep

/-!
# The limit on nested calls

A greater limit changes nothing about a parse that stays below the smaller one: the two machines go
through the same states. The only thing that a smaller limit can do is to bring the parse to a halt,
and then the error says so. No operation turns that error into an answer, not even a choice or a
lookahead.
-/

namespace Peg.Interpreter

/-- Under the smaller of two limits a parse ends as under the greater one, or else it exceeds the
limit. -/
theorem parseFrom_eq_or_exceeds (i : Interpreter) (rule : RuleId) (input : List Char)
    {limit limit' : Nat} (h : limit ≤ limit') :
    { i with limit := limit }.parseFrom rule input =
        { i with limit := limit' }.parseFrom rule input ∨
      { i with limit := limit }.parseFrom rule input =
        .error (.recursionLimitExceeded limit) := by
  have hentry : Step.Lockstep (· = .recursionLimitExceeded limit) (· = ·)
      (call ⟨input, i.patterns, limit⟩ i.program limit rule)
      (call ⟨input, i.patterns, limit'⟩ i.program limit' rule) := by
    refine lockstep_call ⟨input, i.patterns, limit⟩ i.program correspondence_eq ?_ rule
    exact .inr ⟨⟨h, h⟩, rfl⟩
  simp only [parseFrom, setting]
  rcases hentry.runStep correspondence_eq (s := .initial) rfl with ⟨error, rfl, hdrop⟩ | halike
  · right
    split
    next hrun =>
      rw [hrun] at hdrop
      cases hdrop
    next hrun =>
      rw [hrun] at hdrop
      cases hdrop
      rfl
  · left
    generalize runStep _ (call _ i.program limit rule) _ = run at halike
    generalize runStep _ (call _ i.program limit' rule) _ = run' at halike
    cases halike with
    | halted => rfl
    | succeeded hs =>
      cases hs
      rfl
    | failed hs =>
      cases hs
      rfl

/-- The limit on nested calls only cuts off. If a parse returns a result under some limit then it
returns that result, with the same events, under every greater one. If it returns a result only
under the greater of two limits then it exceeds the smaller one. -/
theorem limit_only_cuts_off (i : Interpreter) (rule : RuleId) (input : List Char)
    {limit limit' : Nat} (h : limit ≤ limit') :
    (∀ parse events, { i with limit := limit }.parseFrom rule input = .ok (parse, events) →
        { i with limit := limit' }.parseFrom rule input = .ok (parse, events)) ∧
      ((∃ parse events, { i with limit := limit' }.parseFrom rule input = .ok (parse, events)) →
        (¬ ∃ parse events, { i with limit := limit }.parseFrom rule input = .ok (parse, events)) →
        { i with limit := limit }.parseFrom rule input =
          .error (.recursionLimitExceeded limit)) := by
  have hsame := parseFrom_eq_or_exceeds i rule input h
  constructor
  · intro parse events hparse
    rcases hsame with heq | hexceeds
    · exact heq ▸ hparse
    · rw [hexceeds] at hparse
      cases hparse
  · rintro ⟨parse, events, hparse⟩ hfewer
    rcases hsame with heq | hexceeds
    · exact absurd ⟨parse, events, heq.trans hparse⟩ hfewer
    · exact hexceeds

/-- Parentheses around a letter, looked for by a lookahead and a choice before they are matched. -/
def nestedParentheses : Interpreter where
  program :=
    ⟨[⟨"S", .sequence (.not (.sequence (.call ⟨1⟩) (.literal "!")))
        (.choice (.sequence (.call ⟨1⟩) (.literal "?")) (.call ⟨1⟩)), true⟩,
      ⟨"P", .choice (.sequence (.literal "(") (.sequence (.call ⟨1⟩) (.literal ")")))
        (.literal "a"), true⟩], ⟨0⟩, by decide⟩
  patterns := .empty
  limit := 8
  compiled := rfl

/-- Two pairs of parentheses need four nested calls. Three are too few, also inside the lookahead,
and nine give the same result as four. -/
theorem nestedParentheses_limits :
    4 ≤ 9 ∧ 3 ≤ 9 ∧ ∃ parse events,
      { nestedParentheses with limit := 4 }.parseFrom ⟨0⟩ "((a))".toList = .ok (parse, events) ∧
      parse.success = true ∧
      { nestedParentheses with limit := 9 }.parseFrom ⟨0⟩ "((a))".toList = .ok (parse, events) ∧
      { nestedParentheses with limit := 3 }.parseFrom ⟨0⟩ "((a))".toList =
        .error (.recursionLimitExceeded 3) := by
  have hfour : 4 ≤ 9 := by decide
  have hthree : 3 ≤ 9 := by decide
  have hkept := (limit_only_cuts_off nestedParentheses ⟨0⟩ "((a))".toList hfour).1 _ _ rfl
  refine ⟨hfour, hthree, _, _, rfl, rfl, hkept, ?_⟩
  refine (limit_only_cuts_off nestedParentheses ⟨0⟩ "((a))".toList hthree).2 ⟨_, _, hkept⟩ ?_
  rintro ⟨parse, events, hparse⟩
  cases hparse

end Peg.Interpreter
