import Peg.Text.Hex
import Peg.Text.PrintableTable

/-!
# Quoted source text

A text as a string literal of generated code. Quotes, backslashes and the common controls have
short escapes; whatever is not printable, or would merge with the character before it, is written by
its code point.
-/

namespace Peg.Text.Quoted

/-- Whether the character can be shown as it is. -/
def isPrintable (c : Char) : Bool :=
  !CodeRange.anyContains unprintableRanges c.toNat &&
    !CodeRange.anyContains extendRanges c.toNat

/-- How a character is written in a string literal. -/
def encodeChar (c : Char) : List Char :=
  if c = '\x00' then ['\\', '0']
  else if c = '\t' then ['\\', 't']
  else if c = '\r' then ['\\', 'r']
  else if c = '\n' then ['\\', 'n']
  else if c = '"' then ['\\', '"']
  else if c = '\\' then ['\\', '\\']
  else if isPrintable c then [c]
  else ['\\', 'u', '{'] ++ Hex.digits c.toNat ++ ['}']

/-- The string literal that denotes a text. -/
def literal (text : String) : String :=
  String.ofList ('"' :: text.toList.flatMap encodeChar ++ ['"'])

end Peg.Text.Quoted
