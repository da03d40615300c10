import Peg.Regex.Search
import Peg.Proofs.Text.Boundary

/-!
# Where a match ends

A search looks at characters from its start to the right and reports the offset in front of one of
them or behind the last one. A reported end is therefore a boundary at or behind the start.
-/

namespace Peg.Regex.Automaton

open Peg.Text

/-- The best match so far is only ever replaced by one that ends at a character still to be read. -/
theorem continueSearch_stop {a : Automaton} {refuses : Bool} {f : Frontier}
    {before? : Option Char} {offset stop : Nat} {best : Option Nat} {cs : List Char}
    (h : a.continueSearch refuses f before? offset best cs = .ok (some stop)) :
    best = some stop ∨ ∃ front back, cs = front ++ back ∧ stop = offset + byteLength front := by
  induction cs generalizing f before? offset best with
  | nil =>
    simp only [continueSearch] at h
    split at h
    · exact Or.inl (Except.ok.inj h)
    · have hbest := Except.ok.inj h
      split at hbest
      · exact Or.inr ⟨[], [], rfl, by simpa using (Option.some.inj hbest).symm⟩
      · exact Or.inl hbest
  | cons c cs ih =>
    simp only [continueSearch] at h
    split at h
    · exact Or.inl (Except.ok.inj h)
    split at h
    · cases h
    rcases ih h with hbest | ⟨front, back, rfl, rfl⟩
    · split at hbest
      · exact Or.inr ⟨[], c :: cs, rfl, by simpa using (Option.some.inj hbest).symm⟩
      · exact Or.inl hbest
    · exact Or.inr ⟨c :: front, back, rfl, by simp [Nat.add_assoc]⟩

/-- A match ends at or behind its start, in front of a character or at the end of the text. -/
theorem matchAt_stop {a : Automaton} {text : List Char} {start stop : Nat}
    (h : a.matchAt text start = .ok (some stop)) :
    start ≤ stop ∧ isBoundary text stop = true := by
  have hsearch : byteLength (takeBytes text start) = start ∧ ∃ f before?,
      a.continueSearch a.checksUnicodeWords f before? start none (dropBytes text start) =
        .ok (some stop) := by
    simp only [matchAt] at h
    split at h
    next hstart =>
      refine ⟨hstart, a.frontier, ?_⟩
      split at h
      next c _ =>
        split at h
        · cases h
        · exact ⟨some c, h⟩
      · exact ⟨none, h⟩
    · split at h <;> cases h
  obtain ⟨hstart, f, before?, hrun⟩ := hsearch
  rcases continueSearch_stop hrun with hnone | ⟨front, back, hcut, rfl⟩
  · cases hnone
  · have hbound : isBoundary text start = true := by
      simpa [isBoundary, floorOffset] using hstart
    exact ⟨Nat.le_add_right _ _, isBoundary_add_byteLength hbound hcut⟩

end Peg.Regex.Automaton
