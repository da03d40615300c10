import Mathlib.Data.List.DropRight
import Peg.Proofs.Parse.Furthest

/-!
# What a history of failures and matches comes to

The furthest failure is kept up to date note by note, and what a note does depends on how far the
notes before it have come. In the end none of this matters: the furthest failure is where the
greatest failure was, and what is expected there is what has failed there since a match last went
past that place. Labels that were dropped on the way belong to places that were left behind.
-/

namespace Peg.FurthestFailure

/-- What a parse takes note of: that something has failed at a place, or that a match has ended at
one. -/
inductive Note where
  | failure (position : Nat) (label : String)
  | reached (stop : Nat)
  deriving DecidableEq, Repr

namespace Note

/-- Where something has failed. -/
def position? : Note → Option Nat
  | .failure position _ => some position
  | .reached _ => Option.none

/-- What has failed at a place. -/
def labelAt? (place : Nat) : Note → Option String
  | .failure position label => if position = place then some label else Option.none
  | .reached _ => Option.none

/-- Whether a match went past a place. -/
def passes (place : Nat) : Note → Bool
  | .failure _ _ => false
  | .reached stop => place < stop

end Note

/-- Keep up to date with a note. -/
def note (f : FurthestFailure) : Note → FurthestFailure
  | .failure position label => f.record position label
  | .reached stop => f.reached stop

/-- The furthest failure behind notes, when there was none before them. -/
def ofNotes (notes : List Note) : FurthestFailure :=
  notes.foldl note none

/-- The greatest place of a failure, or the start of the input. -/
def furthestOf (notes : List Note) : Nat :=
  (notes.filterMap Note.position?).foldl max 0

/-- What has failed at a place, in order. -/
def labelsAt (place : Nat) (notes : List Note) : List String :=
  notes.filterMap (Note.labelAt? place)

/-- The notes since a match last went past a place. -/
def sincePassing (place : Nat) (notes : List Note) : List Note :=
  notes.rtakeWhile (!·.passes place)

section Concat

variable (notes : List Note) (place position stop : Nat) (label : String)

/-- A failure counts if it is further on than the others. -/
theorem furthestOf_failure :
    furthestOf (notes ++ [.failure position label]) = max (furthestOf notes) position := by
  have hposition : [Note.failure position label].filterMap Note.position? = [position] := rfl
  rw [furthestOf, List.filterMap_append, hposition, List.foldl_concat]
  rfl

/-- Reaching a place is no failure. -/
theorem furthestOf_reached : furthestOf (notes ++ [.reached stop]) = furthestOf notes := by
  have hposition : [Note.reached stop].filterMap Note.position? = [] := rfl
  rw [furthestOf, List.filterMap_append, hposition, List.append_nil]
  rfl

/-- A failure passes no place. -/
theorem sincePassing_failure :
    sincePassing place (notes ++ [.failure position label]) =
      sincePassing place notes ++ [.failure position label] :=
  List.rtakeWhile_concat_pos _ _ _ rfl

/-- A match that goes past the place makes all that was noted before it obsolete. -/
theorem sincePassing_reached :
    sincePassing place (notes ++ [.reached stop]) =
      if place < stop then [] else sincePassing place notes ++ [.reached stop] := by
  rw [sincePassing, List.rtakeWhile_concat]
  by_cases h : place < stop
  · simp [Note.passes, h]
  · simp [Note.passes, h, sincePassing]

/-- A failure at the place adds its label. -/
theorem labelsAt_failure :
    labelsAt place (notes ++ [.failure position label]) =
      labelsAt place notes ++ if position = place then [label] else [] := by
  by_cases h : position = place
  · simp [labelsAt, Note.labelAt?, h]
  · simp [labelsAt, Note.labelAt?, h]

/-- Reaching a place adds no label. -/
theorem labelsAt_reached : labelsAt place (notes ++ [.reached stop]) = labelsAt place notes := by
  simp [labelsAt, Note.labelAt?]

end Concat

/-- Nothing has failed beyond the greatest place of a failure. -/
theorem labelsAt_eq_nil {place : Nat} {notes : List Note} (h : furthestOf notes < place) :
    labelsAt place notes = [] := by
  induction notes using List.reverseRecOn with
  | nil => rfl
  | append_singleton notes n ih =>
    cases n with
    | failure position label =>
      rw [furthestOf_failure, Nat.max_lt] at h
      rw [labelsAt_failure, ih h.1, if_neg (Nat.ne_of_lt h.2), List.append_nil]
    | reached stop =>
      rw [furthestOf_reached] at h
      rw [labelsAt_reached, ih h]

/-- What has failed at a place since it was last passed has failed there at all. -/
theorem labelsAt_sincePassing_subset (place : Nat) (notes : List Note) :
    labelsAt place (sincePassing place notes) ⊆ labelsAt place notes :=
  (List.Sublist.filterMap _ (List.rtakeWhile_suffix _ notes).sublist).subset

/-- What is expected takes in a label as lists without repetitions do. -/
theorem eraseDups_concat (labels : List String) (label : String) :
    (labels ++ [label]).eraseDups =
      if labels.eraseDups.contains label then labels.eraseDups
      else labels.eraseDups ++ [label] := by
  rw [List.eraseDups_append]
  by_cases h : label ∈ labels
  · simp [List.removeAll, h]
  · simp [List.removeAll, List.eraseDups_cons, h]

/-- However failures and matches follow each other, the furthest failure is at the greatest place of
a failure, and what is expected are the labels of the failures at that place since a match last went
past it, each of them where it came first. -/
theorem ofNotes_exact (notes : List Note) :
    ofNotes notes =
      ⟨furthestOf notes,
        (labelsAt (furthestOf notes) (sincePassing (furthestOf notes) notes)).eraseDups⟩ := by
  induction notes using List.reverseRecOn with
  | nil => rfl
  | append_singleton notes n ih =>
    have hnote : ofNotes (notes ++ [n]) = (ofNotes notes).note n := List.foldl_concat ..
    rw [hnote, ih]
    cases n with
    | failure position label =>
      rw [furthestOf_failure]
      simp only [note, record]
      rcases Nat.lt_trichotomy position (furthestOf notes) with h | h | h
      · -- A failure before the furthest one leaves everything as it is.
        rw [if_pos h, Nat.max_eq_left (Nat.le_of_lt h), sincePassing_failure, labelsAt_failure,
          if_neg (Nat.ne_of_lt h), List.append_nil]
      · subst h
        rw [if_neg (Nat.lt_irrefl _), if_neg (Nat.lt_irrefl _), Nat.max_self,
          sincePassing_failure, labelsAt_failure, if_pos rfl, eraseDups_concat]
        split
        · rfl
        · rfl
      · -- Nothing has failed before where the failure is that is now the furthest one.
        have hnil : labelsAt position (sincePassing position notes) = [] :=
          List.subset_nil.mp (labelsAt_eq_nil h ▸ labelsAt_sincePassing_subset position notes)
        rw [if_neg (Nat.lt_asymm h), if_pos h, Nat.max_eq_right (Nat.le_of_lt h),
          sincePassing_failure, labelsAt_failure, hnil, if_pos rfl]
        rfl
    | reached stop =>
      rw [furthestOf_reached, sincePassing_reached]
      simp only [note, reached]
      split
      · rfl
      · rw [labelsAt_reached]

/-- A match that went past the first failure does not matter once there is a later one. -/
example : ofNotes [.failure 1 "a", .reached 2, .failure 1 "b", .failure 2 "c", .failure 0 "d",
    .failure 2 "e", .reached 2, .failure 2 "c"] = ⟨2, ["c", "e"]⟩ := by
  decide

end Peg.FurthestFailure
