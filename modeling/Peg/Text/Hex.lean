/-!
# Hexadecimal numbers in texts

Reading and writing the hexadecimal numbers that name characters.
-/

namespace Peg.Text.Hex

/-- The value of a hexadecimal digit in either letter case. -/
def digitValue? (c : Char) : Option Nat :=
  if '0' ≤ c ∧ c ≤ '9' then some (c.toNat - '0'.toNat)
  else if 'a' ≤ c ∧ c ≤ 'f' then some (c.toNat - 'a'.toNat + 10)
  else if 'A' ≤ c ∧ c ≤ 'F' then some (c.toNat - 'A'.toNat + 10)
  else none

/-- Whether the character is a hexadecimal digit. -/
def isDigit (c : Char) : Bool :=
  (digitValue? c).isSome

/-- The number that digits denote when `value` has been read before them. -/
def valueAfter? (value : Nat) : List Char → Option Nat
  | [] => some value
  | c :: rest => (digitValue? c).bind fun d => valueAfter? (16 * value + d) rest

/-- The number that one or more digits denote. -/
def value? : List Char → Option Nat
  | [] => none
  | digits => valueAfter? 0 digits

/-- The number that digits denote, which a plus sign may precede. -/
def signedValue? : List Char → Option Nat
  | '+' :: digits => value? digits
  | digits => value? digits

/-- The character with a given code point, unless the number names none. -/
def scalar? (code : Nat) : Option Char :=
  if code.isValidChar then some (Char.ofNat code) else none

/-- The digits of a number in lower case, with no leading zeros. -/
def digits (n : Nat) : List Char :=
  Nat.toDigits 16 n

/-- The digits of a number with leading zeros up to the given width. -/
def paddedDigits (width n : Nat) : List Char :=
  List.replicate (width - (digits n).length) '0' ++ digits n

end Peg.Text.Hex
