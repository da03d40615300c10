import Peg.Text.Offset

/-!
# Boundaries of characters

An offset is a boundary exactly if it cuts the text into two parts without splitting a character.
Offsets that a parse visits are of this kind, since a cut is only ever moved by whole characters.
-/

namespace Peg.Text

/-- A boundary is the length of an initial part of the text. -/
theorem isBoundary_iff {cs : List Char} {n : Nat} :
    isBoundary cs n = true ↔ ∃ front back, cs = front ++ back ∧ n = byteLength front := by
  simp only [isBoundary, floorOffset, beq_iff_eq]
  constructor
  · intro h
    exact ⟨takeBytes cs n, dropBytes cs n, (takeBytes_append_dropBytes cs n).symm, h.symm⟩
  · rintro ⟨front, back, rfl, rfl⟩
    rw [takeBytes_byteLength]

/-- A text may be cut before its first character. -/
theorem isBoundary_zero (cs : List Char) : isBoundary cs 0 = true :=
  isBoundary_iff.mpr ⟨[], cs, rfl, rfl⟩

/-- No boundary lies behind the end of the text. -/
theorem le_byteLength_of_isBoundary {cs : List Char} {n : Nat} (h : isBoundary cs n = true) :
    n ≤ byteLength cs := by
  obtain ⟨front, back, rfl, rfl⟩ := isBoundary_iff.mp h
  simp

/-- Moving a cut behind characters that follow it leads to a boundary. -/
theorem isBoundary_add_byteLength {cs part rest : List Char} {n : Nat}
    (h : isBoundary cs n = true) (hpart : dropBytes cs n = part ++ rest) :
    isBoundary cs (n + byteLength part) = true := by
  obtain ⟨front, back, rfl, rfl⟩ := isBoundary_iff.mp h
  rw [dropBytes_byteLength] at hpart
  subst hpart
  exact isBoundary_iff.mpr ⟨front ++ part, rest, by simp, by simp⟩

/-- A text of no bytes is empty. -/
theorem eq_nil_of_byteLength_eq_zero {cs : List Char} (h : byteLength cs = 0) : cs = [] := by
  cases cs with
  | nil => rfl
  | cons c cs =>
    have hsize := c.utf8Size_pos
    rw [byteLength_cons] at h
    omega

/-- What follows a boundary starts with the characters up to any later boundary. -/
theorem exists_part {cs : List Char} {i j : Nat} (hi : isBoundary cs i = true)
    (hj : isBoundary cs j = true) (hle : i ≤ j) :
    ∃ part, part ++ dropBytes cs j = dropBytes cs i ∧ j = i + byteLength part := by
  obtain ⟨front, back, rfl, rfl⟩ := isBoundary_iff.mp hi
  obtain ⟨front', back', hcut, rfl⟩ := isBoundary_iff.mp hj
  rcases List.append_eq_append_iff.mp hcut with ⟨part, rfl, rfl⟩ | ⟨part, rfl, rfl⟩
  · refine ⟨part, ?_, by simp⟩
    rw [hcut, dropBytes_byteLength, ← hcut, dropBytes_byteLength]
  · have hempty : part = [] := eq_nil_of_byteLength_eq_zero (by
      rw [byteLength_append] at hle
      omega)
    subst hempty
    exact ⟨[], by simp, by simp⟩

/-- The slice that a prefix of the rest of a text covers is the prefix. -/
theorem slice_eq_part {cs part : List Char} {i : Nat} (h : part <+: dropBytes cs i) :
    slice cs i (i + byteLength part) = part := by
  obtain ⟨rest, hrest⟩ := h
  rw [slice, ← hrest, Nat.add_sub_cancel_left, takeBytes_byteLength]

/-- A text can be cut out between two boundaries in order. -/
theorem isSome_slice? {cs : List Char} {i j : Nat} (hi : isBoundary cs i = true)
    (hj : isBoundary cs j = true) (hle : i ≤ j) : (slice? cs i j).isSome = true := by
  simp [slice?, hi, hj, hle]

/-- What follows a boundary can be cut out. -/
theorem isSome_slice?_rest {cs : List Char} {i : Nat} (hi : isBoundary cs i = true) :
    (slice? cs i (byteLength cs)).isSome = true :=
  isSome_slice? hi (isBoundary_iff.mpr ⟨cs, [], by simp, rfl⟩) (le_byteLength_of_isBoundary hi)

/-- Slices that meet at a boundary are one slice. -/
theorem slice_append {cs : List Char} {i j k : Nat} (hi : isBoundary cs i = true)
    (hj : isBoundary cs j = true) (hk : isBoundary cs k = true) (hij : i ≤ j) (hjk : j ≤ k) :
    slice cs i j ++ slice cs j k = slice cs i k := by
  obtain ⟨first, hfirst, rfl⟩ := exists_part hi hj hij
  obtain ⟨second, hsecond, rfl⟩ := exists_part hj hk hjk
  have hwhole : first ++ second <+: dropBytes cs i :=
    ⟨_, by rw [List.append_assoc, hsecond, hfirst]⟩
  have hslice := slice_eq_part hwhole
  rw [byteLength_append, ← Nat.add_assoc] at hslice
  rw [slice_eq_part ⟨_, hfirst⟩, slice_eq_part ⟨_, hsecond⟩, hslice]

/-- A slice is taken exactly if both its ends are boundaries and in order. -/
theorem slice?_eq_some_iff {cs part : List Char} {i j : Nat} :
    slice? cs i j = some part ↔
      (i ≤ j ∧ isBoundary cs i = true ∧ isBoundary cs j = true) ∧ slice cs i j = part := by
  simp [slice?, and_assoc]

/-- What is cut out between a boundary and itself is empty. -/
theorem slice?_self {cs : List Char} {i : Nat} (hi : isBoundary cs i = true) :
    slice? cs i i = some [] :=
  slice?_eq_some_iff.mpr ⟨⟨Nat.le_refl i, hi, hi⟩, slice_eq_part List.nil_prefix⟩

/-- What is cut out behind each other can be cut out at once. -/
theorem slice?_append {cs first second : List Char} {i j k : Nat}
    (hfirst : slice? cs i j = some first) (hsecond : slice? cs j k = some second) :
    slice? cs i k = some (first ++ second) := by
  obtain ⟨⟨hij, hi, hj⟩, rfl⟩ := slice?_eq_some_iff.mp hfirst
  obtain ⟨⟨hjk, _, hk⟩, rfl⟩ := slice?_eq_some_iff.mp hsecond
  have hjoined := slice_append hi hj hk hij hjk
  exact slice?_eq_some_iff.mpr ⟨⟨Nat.le_trans hij hjk, hi, hk⟩, hjoined.symm⟩

/-- A text can be cut out of itself. -/
theorem slice?_all (cs : List Char) : slice? cs 0 (byteLength cs) = some cs := by
  have hall : cs <+: dropBytes cs 0 := ⟨[], by simpa using (dropBytes_byteLength [] cs).symm⟩
  have hslice := slice_eq_part hall
  rw [Nat.zero_add] at hslice
  have hend : isBoundary cs (byteLength cs) = true := isBoundary_iff.mpr ⟨cs, [], by simp, rfl⟩
  exact slice?_eq_some_iff.mpr ⟨⟨Nat.zero_le _, isBoundary_zero cs, hend⟩, hslice⟩

end Peg.Text
