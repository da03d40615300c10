import Mathlib.Data.Nat.Digits.Lemmas
import Peg.Text.Hex

/-!
# What hexadecimal digits denote

Digits denote the number that they write in base sixteen, in either letter case, and the digits of a
number denote the number.
-/

namespace Peg.Text.Hex

/-- The digits in lower case, in the order of their values. -/
def alphabet : List Char :=
  ['0', '1', '2', '3', '4', '5', '6', '7', '8', '9', 'a', 'b', 'c', 'd', 'e', 'f']

/-- The number is written in base sixteen, with digits in either letter case. -/
structure Writes (digits : List Char) (n : Nat) : Prop where
  digit : ∀ c ∈ digits, c.toLower ∈ alphabet
  value : Nat.ofDigits 16 (digits.reverse.map fun c => alphabet.idxOf c.toLower) = n

/-- The value of a digit is its place in the alphabet, whatever its case. -/
theorem digitValue?_eq (c : Char) : digitValue? c =
    if c.toLower ∈ alphabet then some (alphabet.idxOf c.toLower) else none := by
  have hascii : ∀ n < 128, digitValue? (Char.ofNat n) =
      if (Char.ofNat n).toLower ∈ alphabet then some (alphabet.idxOf (Char.ofNat n).toLower)
      else none := by
    decide
  by_cases hc : c.toNat < 128
  · have hvalue := hascii c.toNat hc
    rwa [Char.ofNat_toNat] at hvalue
  · -- No digit and no letter that has a lower case is outside of ASCII.
    have hle (d : Char) (hd : d.toNat < 128) : ¬ c ≤ d := fun h =>
      hc (Nat.lt_of_le_of_lt h hd)
    have hlower : c.toLower = c := dif_neg fun h => hle 'Z' (by decide) h.2
    have hdigits : ∀ d ∈ alphabet, d.toNat < 128 := by simp [alphabet]
    have hmem : c ∉ alphabet := fun h => hc (hdigits c h)
    rw [hlower, if_neg hmem, digitValue?, if_neg fun h => hle '9' (by decide) h.2,
      if_neg fun h => hle 'f' (by decide) h.2, if_neg fun h => hle 'F' (by decide) h.2]

/-- A digit that is written has the value it was written for. -/
theorem digitValue?_digitChar : ∀ d < 16, digitValue? (Nat.digitChar d) = some d := by
  decide

/-- Digits are read from the left, each run of them onto the value of those before. -/
theorem valueAfter?_append (value : Nat) (digits digits' : List Char) :
    valueAfter? value (digits ++ digits') =
      (valueAfter? value digits).bind fun value => valueAfter? value digits' := by
  induction digits generalizing value with
  | nil => rfl
  | cons c digits ih =>
    rw [List.cons_append, valueAfter?, valueAfter?, Option.bind_assoc]
    exact congrArg _ (funext fun d => ih _)

/-- The digits of a number denote the number. -/
theorem valueAfter?_digits (n : Nat) : valueAfter? 0 (digits n) = some n := by
  induction n using Nat.strongRecOn with
  | ind n ih =>
    rw [digits, Nat.toDigits_eq_if (by decide)]
    split
    next hlt => simp [valueAfter?, digitValue?_digitChar n hlt]
    next hge =>
      have hfront := ih (n / 16) (by omega)
      rw [digits] at hfront
      have hlast := digitValue?_digitChar (n % 16) (by omega)
      rw [valueAfter?_append, hfront, Option.bind_some, valueAfter?, hlast, Option.bind_some,
        valueAfter?]
      congr 1
      omega

/-- Leading zeros change nothing. -/
theorem valueAfter?_paddedDigits (width n : Nat) :
    valueAfter? 0 (paddedDigits width n) = some n := by
  have hzeros (k : Nat) : valueAfter? 0 (List.replicate k '0') = some 0 := by
    induction k with
    | zero => rfl
    | succ k ih => exact ih
  rw [paddedDigits, valueAfter?_append, hzeros, Option.bind_some, valueAfter?_digits]

/-- Numbers of at most `width` digits are padded to exactly this width. -/
theorem length_paddedDigits {width n : Nat} (hwidth : 0 < width) (h : n < 16 ^ width) :
    (paddedDigits width n).length = width := by
  have hle : (digits n).length ≤ width :=
    (Nat.length_toDigits_le_iff (by decide) hwidth).mpr h
  rw [paddedDigits, List.length_append, List.length_replicate]
  omega

/-- What is read digit by digit is the number that is written. -/
theorem valueAfter?_eq_some_iff {value n : Nat} {digits : List Char} :
    valueAfter? value digits = some n ↔
      ∃ written, Writes digits written ∧ n = value * 16 ^ digits.length + written := by
  induction digits generalizing value with
  | nil =>
    constructor
    · rintro ⟨⟩
      exact ⟨0, ⟨by simp, rfl⟩, by simp⟩
    · rintro ⟨_, ⟨_, rfl⟩, rfl⟩
      simp [valueAfter?]
  | cons c digits ih =>
    have hvalue : Nat.ofDigits 16 ((c :: digits).reverse.map fun c =>
        alphabet.idxOf c.toLower) =
        Nat.ofDigits 16 (digits.reverse.map fun c => alphabet.idxOf c.toLower) +
          16 ^ digits.length * alphabet.idxOf c.toLower := by
      simp [Nat.ofDigits_append]
    rw [valueAfter?, digitValue?_eq]
    by_cases hc : c.toLower ∈ alphabet
    · rw [if_pos hc, Option.bind_some, ih]
      constructor
      · rintro ⟨written, h, rfl⟩
        refine ⟨_, ⟨List.forall_mem_cons.mpr ⟨hc, h.digit⟩, rfl⟩, ?_⟩
        rw [hvalue, h.value, List.length_cons]
        ring
      · rintro ⟨written, h, rfl⟩
        refine ⟨_, ⟨(List.forall_mem_cons.mp h.digit).2, rfl⟩, ?_⟩
        rw [← h.value, hvalue, List.length_cons]
        ring
    · rw [if_neg hc, Option.bind_none]
      simp only [reduceCtorEq, false_iff]
      rintro ⟨written, h, _⟩
      exact hc (h.digit c List.mem_cons_self)

/-- Digits have a value exactly if there are any and they write it. -/
theorem value?_eq_some_iff {digits : List Char} {n : Nat} :
    value? digits = some n ↔ digits ≠ [] ∧ Writes digits n := by
  cases digits with
  | nil => simp [value?]
  | cons c digits => simp [value?, valueAfter?_eq_some_iff]

/-- A number with a plus sign in front of it is read, too. -/
theorem signedValue?_eq_some_iff {text : List Char} {n : Nat} :
    signedValue? text = some n ↔
      ∃ digits, (text = digits ∨ text = '+' :: digits) ∧ digits ≠ [] ∧ Writes digits n := by
  have hplus {digits : List Char} (h : Writes ('+' :: digits) n) : False :=
    absurd (h.digit '+' List.mem_cons_self) (by decide)
  fun_cases signedValue? text with
  | case1 digits =>
    rw [value?_eq_some_iff]
    constructor
    · exact fun h => ⟨digits, .inr rfl, h⟩
    · rintro ⟨digits', rfl | heq, h⟩
      · exact (hplus h.2).elim
      · cases heq
        exact h
  | case2 _ hsign =>
    rw [value?_eq_some_iff]
    constructor
    · exact fun h => ⟨text, .inl rfl, h⟩
    · rintro ⟨digits, rfl | heq, h⟩
      · exact h
      · exact (hsign digits heq).elim

/-- A code stands for the character that has this code. -/
theorem scalar?_eq_some_iff {code : Nat} {c : Char} : scalar? code = some c ↔ code = c.toNat := by
  rw [scalar?]
  constructor
  · intro h
    split at h
    next hvalid =>
      cases h
      rw [Char.ofNat, dif_pos hvalid]
      rfl
    · cases h
  · rintro rfl
    have hvalid : c.toNat.isValidChar := c.valid
    rw [if_pos hvalid, Char.ofNat_toNat]

end Peg.Text.Hex
