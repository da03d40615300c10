import Peg.Proofs.Text.Hex
import Peg.Proofs.Text.Reader
import Peg.Text.Quoted

/-!
# Reading quoted texts back

The string literal that denotes a text ends where the text ends, whatever is in the text and
whatever stands behind the literal, and the text can be read back from it.
-/

namespace Peg.Text

namespace Quoted

/-- Where one is inside a string literal: among plain characters, behind a backslash, behind a
backslash and the letter `u`, or among the digits of a code point with the value of those so far. -/
inductive Place where
  | plain
  | escape
  | brace
  | code (value : Nat)

/-- The character that a letter behind a backslash stands for. -/
def escaped? : Char → Option Char
  | '0' => some '\x00'
  | 't' => some '\t'
  | 'r' => some '\r'
  | 'n' => some '\n'
  | '"' => some '"'
  | '\\' => some '\\'
  | _ => none

/-- The character in front of what has been read behind it. -/
def before (c : Char) : Option (List Char × List Char) → Option (List Char × List Char) :=
  Option.map fun (chars, rest) => (c :: chars, rest)

/-- The characters that a string literal denotes up to its closing quote, with what stands behind
it. -/
def unquote : Place → List Char → Option (List Char × List Char)
  | _, [] => none
  | .plain, c :: rest =>
    if c = '"' then some ([], rest)
    else if c = '\\' then unquote .escape rest
    else before c (unquote .plain rest)
  | .escape, c :: rest =>
    if c = 'u' then unquote .brace rest
    else (escaped? c).bind fun c => before c (unquote .plain rest)
  | .brace, c :: rest => if c = '{' then unquote (.code 0) rest else none
  | .code value, c :: rest =>
    if c = '}' then before (Char.ofNat value) (unquote .plain rest)
    else (Hex.digitValue? c).bind fun d => unquote (.code (16 * value + d)) rest

/-- A code point ends at the closing brace. -/
theorem unquote_code {value code : Nat} {digits : List Char}
    (h : Hex.valueAfter? value digits = some code) (rest : List Char) :
    unquote (.code value) (digits ++ '}' :: rest) =
      before (Char.ofNat code) (unquote .plain rest) := by
  induction digits generalizing value with
  | nil =>
    cases h
    simp [unquote]
  | cons c digits ih =>
    obtain ⟨d, hd, hdigits⟩ := Option.bind_eq_some_iff.mp h
    have hbrace : c ≠ '}' := by
      rintro rfl
      cases hd
    rw [List.cons_append, unquote, if_neg hbrace, hd, Option.bind_some, ih hdigits]

/-- A character is read back, however it is written. -/
theorem unquote_encodeChar (c : Char) (rest : List Char) :
    unquote .plain (encodeChar c ++ rest) = before c (unquote .plain rest) := by
  have hshort (letter : Char) (hu : letter ≠ 'u') (h : escaped? letter = some c) :
      unquote .plain (['\\', letter] ++ rest) = before c (unquote .plain rest) := by
    simp [unquote, hu, h]
  fun_cases encodeChar c with
  | case1 hc => exact hshort '0' (by decide) (by rw [hc]; rfl)
  | case2 _ hc => exact hshort 't' (by decide) (by rw [hc]; rfl)
  | case3 _ _ hc => exact hshort 'r' (by decide) (by rw [hc]; rfl)
  | case4 _ _ _ hc => exact hshort 'n' (by decide) (by rw [hc]; rfl)
  | case5 _ _ _ _ hc => exact hshort '"' (by decide) (by rw [hc]; rfl)
  | case6 _ _ _ _ _ hc => exact hshort '\\' (by decide) (by rw [hc]; rfl)
  | case7 _ _ _ _ hquote hbackslash => simp [unquote, hquote, hbackslash]
  | case8 =>
    have hcode := unquote_code (Hex.valueAfter?_digits c.toNat) rest
    rw [Char.ofNat_toNat] at hcode
    simpa [unquote] using hcode

/-- An encoded text is read back up to its closing quote. -/
theorem unquote_flatMap (text rest : List Char) :
    unquote .plain (text.flatMap encodeChar ++ '"' :: rest) = some (text, rest) := by
  induction text with
  | nil => simp [unquote]
  | cons c text ih =>
    rw [List.flatMap_cons, List.append_assoc, unquote_encodeChar, ih]
    rfl

/-- The text that a string literal denotes. -/
def quoted : Reader String := do
  Reader.expect "\""
  fun chars => (unquote .plain chars).map fun (text, rest) => (String.ofList text, rest)

/-- A quoted literal reads as its text. -/
theorem reads_quoted (text : String) : Reader.Reads quoted (literal text) text := by
  have hparts : literal text =
      "\"" ++ String.ofList (text.toList.flatMap encodeChar ++ ['"']) := by
    rw [← String.toList_inj]
    simp [literal]
  rw [hparts]
  refine (Reader.reads_expect "\"").bind fun rest => ?_
  have hunquote := unquote_flatMap text.toList rest
  simp [StateT.run, hunquote]

end Quoted

end Peg.Text
