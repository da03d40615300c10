import Peg.Proofs.Parse.Nesting

/-!
# Programs mean what they recognise

The call of a rule answers what the rule recognises and nothing else, and it does so under every
limit on nested calls that is large enough for the answer.
-/

namespace Peg.Interpreter

open Peg.Text

/-- A call that does not halt gives an answer of its rule, and every answer of the rule is given by
all calls that leave enough room for nested ones. -/
theorem call_implements_recognition (program : Program) (patterns : PatternTable)
    (input : List Char) {id : RuleId} (hid : (program.rule? id).isSome = true) {i : Nat}
    (hi : isBoundary input i = true) :
    (∀ (limit : Nat) (s : ParseState) (node : ParseTree), s.position = i →
      let o := call ⟨input, patterns, limit⟩ program (limit - s.depth) id s node
      (∀ error, o.verdict ≠ .halted error) →
        ∃ r, o.Answers i r ∧ Recognizes program patterns input (.call id) i r) ∧
    ∀ r, Recognizes program patterns input (.call id) i r →
      ∃ least, ∀ (limit : Nat) (s : ParseState) (node : ParseTree), s.position = i →
        least + s.depth ≤ limit →
        (call ⟨input, patterns, limit⟩ program (limit - s.depth) id s node).Answers i r := by
  constructor
  · rintro limit s node rfl o hends
    have hfollows := (compositional_follows ⟨input, patterns, limit⟩ program).call_run
      (limit - s.depth) hid
    rcases hfollows s node hi with ⟨error, hhalt⟩ | hanswer
    · exact absurd hhalt (hends error)
    · exact hanswer
  · intro r hrec
    have hresolves : program.Resolves (.call id) := by simpa [Program.Resolves] using hid
    obtain ⟨least, hsettles⟩ := exists_settles hrec hresolves hi
    refine ⟨least, fun limit s node hs hroom => ?_⟩
    exact hsettles limit (limit - s.depth) (by omega) s node hs (by omega)

/-- Letters `a` and then at least two letters `b`. -/
def twoLetters : Program :=
  ⟨[⟨"S", .choice (.sequence (.literal "a") (.call ⟨0⟩)) (.repetition 2 none (.literal "b")),
    true⟩], ⟨0⟩, by decide⟩

/-- The word `aabb` is recognised because a run accepts it, and so it is accepted under every
sufficient limit. -/
theorem twoLetters_recognizes_aabb :
    (twoLetters.rule? ⟨0⟩).isSome = true ∧ isBoundary "aabb".toList 0 = true ∧
      Recognizes twoLetters .empty "aabb".toList (.call ⟨0⟩) 0 (some 4) ∧
      ∃ least, ∀ (limit : Nat) (s : ParseState) (node : ParseTree), s.position = 0 →
        least + s.depth ≤ limit →
        (call ⟨"aabb".toList, .empty, limit⟩ twoLetters (limit - s.depth) ⟨0⟩ s node).Answers 0
          (some 4) := by
  have hid : (twoLetters.rule? ⟨0⟩).isSome = true := rfl
  have hi : isBoundary "aabb".toList 0 = true := by decide
  obtain ⟨hsound, hcomplete⟩ :=
    call_implements_recognition twoLetters .empty "aabb".toList hid hi
  have hmatched : (call ⟨"aabb".toList, .empty, 8⟩ twoLetters 8 ⟨0⟩ .initial .empty).verdict =
      .matched := by decide
  have hposition : (call ⟨"aabb".toList, .empty, 8⟩ twoLetters 8 ⟨0⟩ .initial .empty).state.position
      = 4 := by decide
  obtain ⟨r, hanswers, hrec⟩ := hsound 8 .initial .empty rfl fun error => by
    rw [show (8 : Nat) - ParseState.initial.depth = 8 from rfl, hmatched]
    simp
  cases r with
  | none => exact absurd (hmatched.symm.trans hanswers.1) (by simp)
  | some j =>
    obtain rfl : 4 = j := hposition.symm.trans hanswers.2
    exact ⟨hid, hi, hrec, hcomplete (some 4) hrec⟩

end Peg.Interpreter
