import Mathlib.Data.List.DropRight
import Mathlib.Data.Prod.Lex
import Mathlib.Order.Bounds.Defs
import Mathlib.Order.Monotone.Defs
import Peg.Proofs.Text.Boundary
import Peg.Text.Position

/-!
# Positions are exact

A line index knows where the lines of a text start. The position that it finds with these offsets is
the one that is found by reading the text up to the offset: its line feeds make the lines, and what
follows the last of them makes the columns. Every character moves the position forward, so offsets
keep their order as positions.
-/

namespace Peg.Text

/-- Positions are ordered as they follow each other in a text: by lines, and by columns on a
line. -/
instance : Preorder Position :=
  .lift fun p => toLex (p.line, p.column)

/-- Positions are ordered by line, and by column within a line. -/
theorem Position.lt_iff {p q : Position} :
    p < q ↔ p.line < q.line ∨ p.line = q.line ∧ p.column < q.column :=
  Prod.Lex.lt_iff

/-- The position behind a text, which is that of whatever follows it. -/
def Position.behind (front : List Char) : Position :=
  ⟨front.count '\n' + 1, (front.rtakeWhile (· ≠ '\n')).length + 1⟩

/-- Reading one more character moves the position forward. -/
theorem Position.behind_lt_concat (front : List Char) (c : Char) :
    behind front < behind (front ++ [c]) := by
  rw [Position.lt_iff]
  by_cases hc : c = '\n'
  · subst hc
    left
    simp [behind]
  · right
    simp [behind, hc]

/-- The position behind a longer text lies further ahead. -/
theorem Position.behind_lt_append (front : List Char) {part : List Char} (h : part ≠ []) :
    behind front < behind (front ++ part) := by
  induction part using List.reverseRecOn with
  | nil => exact absurd rfl h
  | append_singleton part c ih =>
    have hlast := behind_lt_concat (front ++ part) c
    rw [List.append_assoc] at hlast
    by_cases hpart : part = []
    · simpa [hpart] using hlast
    · exact lt_trans (ih hpart) hlast

/-- The position behind an initial part of a text is not ahead of the one behind the text. -/
theorem Position.behind_le {front front' : List Char} (h : front <+: front') :
    behind front ≤ behind front' := by
  obtain ⟨part, rfl⟩ := h
  by_cases hpart : part = []
  · simp [hpart]
  · exact le_of_lt (behind_lt_append front hpart)

/-- A greater bound cuts off more. -/
theorem takeBytes_mono (cs : List Char) {n m : Nat} (h : n ≤ m) :
    takeBytes cs n <+: takeBytes cs m := by
  induction cs generalizing n m with
  | nil => exact List.prefix_rfl
  | cons c cs ih =>
    by_cases hc : c.utf8Size ≤ n
    · simp only [takeBytes, if_pos hc, if_pos (Nat.le_trans hc h)]
      exact (List.prefix_cons_inj c).mpr (ih (Nat.sub_le_sub_right h _))
    · simp only [takeBytes, if_neg hc]
      exact List.nil_prefix

/-- Moving an offset down leads to the last boundary that is not behind it. -/
theorem isGreatest_floorOffset (cs : List Char) (offset : Nat) :
    IsGreatest {i | isBoundary cs i = true ∧ i ≤ offset} (floorOffset cs offset) := by
  refine ⟨⟨?_, byteLength_takeBytes_le cs offset⟩, ?_⟩
  · exact isBoundary_iff.mpr ⟨_, _, (takeBytes_append_dropBytes cs offset).symm, rfl⟩
  · rintro i ⟨hi, hle⟩
    obtain ⟨part, hpart⟩ := takeBytes_mono cs hle
    have hfloor : floorOffset cs i = i := by simpa [isBoundary] using hi
    rw [← hfloor, floorOffset, floorOffset, ← hpart, byteLength_append]
    exact Nat.le_add_right _ _

namespace LineIndex

/-- The lines of a text start where those of its front do, then where those of its back do. -/
theorem startsFrom_append (offset : Nat) (front back : List Char) :
    startsFrom offset (front ++ back) =
      startsFrom offset front ++ startsFrom (offset + byteLength front) back := by
  induction front generalizing offset with
  | nil => rfl
  | cons c front ih =>
    simp only [List.cons_append, startsFrom, ih, byteLength_cons, Nat.add_assoc]
    split
    · rfl
    · rfl

/-- Every line break starts one line. -/
theorem length_startsFrom (offset : Nat) (cs : List Char) :
    (startsFrom offset cs).length = cs.count '\n' := by
  induction cs generalizing offset with
  | nil => rfl
  | cons c cs ih =>
    simp only [startsFrom]
    split
    next hc => simp [hc, ih]
    next hc => simp [hc, ih]

/-- A line that starts in a text starts behind a character of the text. -/
theorem bounds_of_mem_startsFrom {offset start : Nat} {cs : List Char}
    (h : start ∈ startsFrom offset cs) : offset < start ∧ start ≤ offset + byteLength cs := by
  induction cs generalizing offset with
  | nil => cases h
  | cons c cs ih =>
    have hsize := c.utf8Size_pos
    have hrest (hmem : start ∈ startsFrom (offset + c.utf8Size) cs) :
        offset < start ∧ start ≤ offset + byteLength (c :: cs) := by
      obtain ⟨hlt, hle⟩ := ih hmem
      rw [byteLength_cons]
      omega
    simp only [startsFrom] at h
    split at h
    · rcases List.mem_cons.mp h with rfl | hmem
      · rw [byteLength_cons]
        omega
      · exact hrest hmem
    · exact hrest h

/-- Lines start one behind the other, so that a search may halve their offsets. -/
theorem pairwise_startsFrom (offset : Nat) (cs : List Char) :
    (startsFrom offset cs).Pairwise (· < ·) := by
  induction cs generalizing offset with
  | nil => exact .nil
  | cons c cs ih =>
    simp only [startsFrom]
    split
    · exact .cons (fun start hstart => (bounds_of_mem_startsFrom hstart).1) (ih _)
    · exact ih _

/-- The starts of the lines increase. -/
theorem pairwise_lineStarts (cs : List Char) : (ofChars cs).lineStarts.Pairwise (· < ·) := by
  refine .cons (fun start hstart => ?_) (pairwise_startsFrom 0 cs)
  exact (bounds_of_mem_startsFrom hstart).1

/-- The lines that have started up to a boundary are those of the text in front of it. -/
theorem takeWhile_lineStarts (front back : List Char) :
    (ofChars (front ++ back)).lineStarts.takeWhile (· ≤ byteLength front) =
      (ofChars front).lineStarts := by
  have hfront : ∀ start ∈ (ofChars front).lineStarts, decide (start ≤ byteLength front) = true := by
    intro start hstart
    rcases List.mem_cons.mp hstart with rfl | hstart
    · simp
    · simpa using (bounds_of_mem_startsFrom hstart).2
  have hback : (startsFrom (byteLength front) back).takeWhile (· ≤ byteLength front) = [] := by
    cases hstarts : startsFrom (byteLength front) back with
    | nil => rfl
    | cons start starts =>
      have hmem : start ∈ startsFrom (byteLength front) back := hstarts ▸ List.mem_cons_self
      simpa using (bounds_of_mem_startsFrom hmem).1
  have hstarts : (ofChars (front ++ back)).lineStarts =
      (ofChars front).lineStarts ++ startsFrom (byteLength front) back := by
    simp [ofChars, startsFrom_append]
  rw [hstarts, List.takeWhile_append_of_pos hfront, hback, List.append_nil]

/-- The last line of a text starts behind all that is in front of it. -/
theorem getLastD_lineStarts (cs : List Char) :
    (ofChars cs).lineStarts.getLastD 0 = byteLength (cs.rdropWhile (· ≠ '\n')) := by
  induction cs using List.reverseRecOn with
  | nil => rfl
  | append_singleton cs c ih =>
    have hstarts : (ofChars (cs ++ [c])).lineStarts =
        (ofChars cs).lineStarts ++ startsFrom (byteLength cs) [c] := by
      simp [ofChars, startsFrom_append]
    rw [hstarts]
    by_cases hc : c = '\n'
    · subst hc
      simp [startsFrom]
    · simpa [startsFrom, List.rdropWhile_concat, hc] using ih

/-- What is cut out from the start of the last line on is the last line. -/
theorem slice_lastLine (front back : List Char) :
    slice (front ++ back) (byteLength (front.rdropWhile (· ≠ '\n'))) (byteLength front) =
      front.rtakeWhile (· ≠ '\n') := by
  have hsplit := List.rdropWhile_append_rtakeWhile (l := front) (p := (· ≠ '\n'))
  generalize front.rdropWhile (· ≠ '\n') = before at hsplit ⊢
  generalize front.rtakeWhile (· ≠ '\n') = line at hsplit ⊢
  subst hsplit
  have hline : line <+: dropBytes (before ++ line ++ back) (byteLength before) := by
    rw [List.append_assoc, dropBytes_byteLength]
    exact List.prefix_append line back
  rw [byteLength_append]
  exact slice_eq_part hline

/-- The position of an offset is the one behind the characters in front of it. -/
theorem position_eq_behind (cs : List Char) (offset : Nat) :
    (ofChars cs).position offset = .behind (takeBytes cs offset) := by
  have hcut := takeBytes_append_dropBytes cs offset
  have hchars : (ofChars cs).chars = cs := rfl
  have hfloor : floorOffset cs offset = byteLength (takeBytes cs offset) := rfl
  have hstarted := takeWhile_lineStarts (takeBytes cs offset) (dropBytes cs offset)
  have hline := slice_lastLine (takeBytes cs offset) (dropBytes cs offset)
  rw [hcut] at hstarted hline
  have hlength : (ofChars (takeBytes cs offset)).lineStarts.length =
      (takeBytes cs offset).count '\n' + 1 :=
    congrArg (· + 1) (length_startsFrom 0 _)
  simp only [position, hchars, hfloor, hstarted, getLastD_lineStarts, hline, hlength]
  rfl

/-- The position of an offset counts the line feeds in front of the last boundary that is not behind
the offset, and the characters from the last line feed, or from the start, up to there. So the
position never moves back when the offset moves on, and no two boundaries have the same position.
The offsets of lines are in order, which is what a search by halves relies on. -/
theorem position_exact (cs : List Char) :
    (ofChars cs).lineStarts.Pairwise (· < ·) ∧
      (∀ offset, ∃ front back, cs = front ++ back ∧
        IsGreatest {i | isBoundary cs i = true ∧ i ≤ offset} (byteLength front) ∧
        (ofChars cs).position offset =
          ⟨front.count '\n' + 1, (front.rtakeWhile (· ≠ '\n')).length + 1⟩) ∧
      Monotone (ofChars cs).position ∧
      Set.InjOn (ofChars cs).position {i | isBoundary cs i = true} := by
  refine ⟨pairwise_lineStarts cs, fun offset => ?_, fun n m hle => ?_, ?_⟩
  · exact ⟨takeBytes cs offset, dropBytes cs offset, (takeBytes_append_dropBytes cs offset).symm,
      isGreatest_floorOffset cs offset, position_eq_behind cs offset⟩
  · rw [position_eq_behind, position_eq_behind]
    exact Position.behind_le (takeBytes_mono cs hle)
  · -- Of two different boundaries, the text in front of the later one is longer.
    have hlt {i j : Nat} (hi : isBoundary cs i = true) (hj : isBoundary cs j = true) (h : i < j) :
        (ofChars cs).position i < (ofChars cs).position j := by
      obtain ⟨part, hpart⟩ := takeBytes_mono cs (Nat.le_of_lt h)
      have hne : part ≠ [] := by
        rintro rfl
        rw [List.append_nil] at hpart
        have hsame : floorOffset cs i = floorOffset cs j := congrArg byteLength hpart
        simp only [isBoundary, beq_iff_eq] at hi hj
        omega
      rw [position_eq_behind, position_eq_behind, ← hpart]
      exact Position.behind_lt_append _ hne
    intro i hi j hj hsame
    rcases lt_trichotomy i j with h | h | h
    · exact absurd hsame (ne_of_lt (hlt hi hj h))
    · exact h
    · exact absurd hsame.symm (ne_of_lt (hlt hj hi h))

/-- The letter of two bytes is at its first byte, its second one belongs to it, and whatever is
behind the end means the end. -/
example : [0, 3, 4, 5, 6, 99].map (ofText "ab\né\n").position =
    [⟨1, 1⟩, ⟨2, 1⟩, ⟨2, 1⟩, ⟨2, 2⟩, ⟨3, 1⟩, ⟨3, 1⟩] := by
  decide

end LineIndex

end Peg.Text
