import Peg.Proofs.Parse.Nesting

/-!
# What a parse yields

A parse starts with the call of a rule at the start of the input, and it succeeds if that call
matches everything. So the answers of the rule at the start of the input determine what parses
yield.
-/

namespace Peg.Interpreter

open Peg.Text

variable {i : Interpreter} {rule : RuleId} {input : List Char} {r : Option Nat}

/-- A parse returns a result: the rule has answered at the start of the input, the root ends where
the cursor is then, and the parse succeeds if the rule has matched all of the input. -/
def Yields (i : Interpreter) (rule : RuleId) (input : List Char) (r : Option Nat) : Prop :=
  (i.outcome rule input).Answers 0 r ∧
    ∃ parse events, i.parseFrom rule input = .ok (parse, events) ∧
      parse.root.stop = r.getD 0 ∧ (parse.success = true ↔ r = some (byteLength input))

/-- The answer of the start rule determines the result of the parse. -/
theorem yields_of_answers (h : (i.outcome rule input).Answers 0 r) : i.Yields rule input r := by
  refine ⟨h, ?_⟩
  have hinput : (i.setting input).input = input := rfl
  have hrestart : ParseState.initial.restart = .initial := rfl
  cases r with
  | none =>
    obtain ⟨hverdict, hposition⟩ := h
    simp only [outcome] at hverdict hposition
    simp only [parseFrom, runStep, hrestart, hverdict]
    exact ⟨_, _, rfl, hposition, by simp⟩
  | some j =>
    obtain ⟨hverdict, hposition⟩ := h
    simp only [outcome] at hverdict hposition
    simp only [parseFrom, runStep, hrestart, hverdict, hposition, hinput]
    by_cases hall : j = byteLength input
    · simp only [if_pos hall]
      exact ⟨_, _, rfl, rfl, by simpa using hall⟩
    · simp only [if_neg hall]
      exact ⟨_, _, rfl, rfl, by simpa using hall⟩

/-- A parse that returns a result yields an answer that its start rule recognises. -/
theorem exists_yields (hrule : (i.program.rule? rule).isSome = true)
    (hends : ∀ error, i.parseFrom rule input ≠ .error error) :
    ∃ r, i.Yields rule input r ∧
      Recognizes i.program i.patterns input (.call rule) 0 r := by
  have hfollows := (compositional_follows (i.setting input) i.program).call_run i.limit hrule
  rcases hfollows .initial .empty (isBoundary_zero _) with ⟨error, hhalt⟩ | ⟨r, hanswers, hrec⟩
  · have hrestart : ParseState.initial.restart = .initial := rfl
    refine absurd ?_ (hends error)
    simp only [parseFrom, runStep, hrestart, hhalt]
  · exact ⟨r, yields_of_answers hanswers, hrec⟩

/-- Whatever the start rule recognises is what a parse yields under every sufficient limit. -/
theorem exists_limit_yields {program : Program} {patterns : PatternTable}
    (hrule : (program.rule? rule).isSome = true)
    (hrec : Recognizes program patterns input (.call rule) 0 r) :
    ∃ least, ∀ i : Interpreter, i.program = program → i.patterns = patterns → least ≤ i.limit →
      i.Yields rule input r := by
  have hresolves : program.Resolves (.call rule) := by simpa [Program.Resolves] using hrule
  obtain ⟨least, hsettles⟩ := exists_settles hrec hresolves (isBoundary_zero _)
  refine ⟨least, ?_⟩
  rintro i rfl rfl hlimit
  apply yields_of_answers
  have hroom : ParseState.initial.depth + least ≤ i.limit := by
    simpa [ParseState.initial] using hlimit
  exact hsettles i.limit i.limit hlimit .initial .empty rfl hroom

end Peg.Interpreter
