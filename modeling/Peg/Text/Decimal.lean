/-!
# Decimal numbers in texts

Reading the numbers of options and repeat counts, which have to fit into 32 bits.
-/

namespace Peg.Text.Decimal

/-- The number that digits denote when `value` has been read before them. -/
def valueAfter? (value : Nat) : List Char → Option Nat
  | [] => some value
  | c :: rest =>
    if c.isDigit then valueAfter? (10 * value + (c.toNat - '0'.toNat)) rest else none

/-- The number that one or more digits denote, which a plus sign may precede. -/
def value? : List Char → Option Nat
  | [] | ['+'] => none
  | '+' :: digits => valueAfter? 0 digits
  | digits => valueAfter? 0 digits

/-- The number that a text denotes, if it fits into 32 bits. -/
def value32? (text : String) : Option Nat :=
  (value? text.toList).filter fun n => n < 0x100000000

end Peg.Text.Decimal
