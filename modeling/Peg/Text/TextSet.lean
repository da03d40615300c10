/-!
# Sets of texts

Texts with common beginnings share them, so that looking up a text takes no longer in a large set
than the different characters at each place demand. Main statement: after an insertion a set
contains the inserted text and whatever it contained before.
-/

namespace Peg.Text

/-- A set of texts that are not empty. A branch holds the texts that go on with its character:
whether one of them ends there, and how the others go on. Texts that go on with other characters are
beside it. -/
inductive TextTree where
  | leaf
  | branch (c : Char) (ends : Bool) (below beside : TextTree)
  deriving DecidableEq, Repr

namespace TextTree

/-- Whether a tree contains a text. -/
def contains : TextTree → List Char → Bool
  | .leaf, _ => false
  | .branch _ _ _ _, [] => false
  | .branch c ends below beside, d :: ds =>
    if d = c then (ds.isEmpty && ends) || below.contains ds else beside.contains (d :: ds)

/-- The tree of a single text. -/
def single : List Char → TextTree
  | [] => .leaf
  | c :: cs => .branch c cs.isEmpty (single cs) .leaf

/-- Put a text into a tree. -/
def insert : TextTree → List Char → TextTree
  | .leaf, cs => single cs
  | .branch c ends below beside, [] => .branch c ends below beside
  | .branch c ends below beside, d :: ds =>
    if d = c then .branch c (ds.isEmpty || ends) (below.insert ds) beside
    else .branch c ends below (beside.insert (d :: ds))

/-- No tree contains the empty text, which is kept apart from it. -/
theorem not_contains_nil (t : TextTree) : t.contains [] = false := by
  cases t <;> rfl

/-- A tree of one text contains this text only. -/
theorem contains_single (cs ds : List Char) :
    (single cs).contains ds = (!cs.isEmpty && ds == cs) := by
  induction cs generalizing ds with
  | nil => rfl
  | cons c cs ih =>
    cases ds with
    | nil => rfl
    | cons d ds =>
      by_cases h : d = c
      · rw [single, contains, if_pos h, ih]
        cases cs <;> cases ds <;> simp [h]
      · simp [single, contains, h]

/-- After an insertion a tree contains the inserted text and what it contained before. -/
theorem contains_insert (t : TextTree) (cs ds : List Char) :
    (t.insert cs).contains ds = ((!cs.isEmpty && ds == cs) || t.contains ds) := by
  induction t generalizing cs ds with
  | leaf => simp [insert, contains, contains_single]
  | branch c ends below beside below_ih beside_ih =>
    cases cs with
    | nil => simp [insert]
    | cons b bs =>
      cases ds with
      | nil => simp [not_contains_nil]
      | cons d ds =>
        by_cases hb : b = c
        · by_cases hd : d = c
          · cases bs <;> cases ds <;> simp [insert, contains, hb, hd, below_ih, not_contains_nil]
          · simp [insert, contains, hb, hd]
        · by_cases hd : d = c
          · have hne : c ≠ b := fun h => hb h.symm
            simp [insert, contains, hb, hd, hne]
          · simp [insert, contains, hb, hd, beside_ih]

end TextTree

/-- A set of texts. -/
structure TextSet where
  /-- Whether the empty text is in the set. -/
  hasEmpty : Bool
  tree : TextTree
  deriving DecidableEq, Repr

namespace TextSet

/-- The set without texts. -/
def empty : TextSet :=
  ⟨false, .leaf⟩

/-- Whether a set contains a text. -/
def contains (s : TextSet) (text : String) : Bool :=
  if text.isEmpty then s.hasEmpty else s.tree.contains text.toList

/-- Put a text into a set. -/
def insert (s : TextSet) (text : String) : TextSet :=
  if text.isEmpty then { s with hasEmpty := true }
  else { s with tree := s.tree.insert text.toList }

/-- The empty set contains no text. -/
theorem contains_empty (text : String) : empty.contains text = false := by
  simp [contains, empty, TextTree.contains]

/-- After an insertion a set contains the inserted text and what it contained before. -/
theorem contains_insert (s : TextSet) (text other : String) :
    (s.insert text).contains other = (other == text || s.contains other) := by
  by_cases ht : text = ""
  · by_cases ho : other = "" <;> simp [insert, contains, ht, ho]
  · by_cases ho : other = ""
    · have hne : "" ≠ text := fun h => ht h.symm
      simp [insert, contains, ht, ho, hne]
    · have hchars : text.toList.isEmpty = false := by simpa using ht
      have heq : (other.toList == text.toList) = (other == text) := by
        rw [Bool.eq_iff_iff, beq_iff_eq, beq_iff_eq, String.toList_inj]
      simp [insert, contains, ht, ho, TextTree.contains_insert, hchars, heq]

end TextSet

end Peg.Text
