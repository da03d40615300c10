import Peg.Text.Hex

/-!
# Backslash escapes

Decoding the escapes of quoted grammar literals and collapsed terminals, and writing a text so that
it can stand between double quotes. A backslash that starts no known escape stands for itself.
-/

namespace Peg.Text

namespace Escape

/-- The character that a one-letter escape stands for. -/
def simple? : Char → Option Char
  | 'n' => some '\n'
  | 'r' => some '\r'
  | 't' => some '\t'
  | '0' => some '\x00'
  | '\\' => some '\\'
  | '"' => some '"'
  | '\'' => some '\''
  | '/' => some '/'
  | _ => none

/-- The character named between braces, with the number of characters up to the closing brace and
including both. Up to six places are allowed, one of which may be a plus sign. -/
def braced? (rest : List Char) : Option (Char × Nat) :=
  let hex := rest.takeWhile (· != '}')
  if hex.length < rest.length && hex.length ≤ 6 then
    ((Hex.signedValue? hex).bind Hex.scalar?).map fun c => (c, hex.length + 2)
  else none

/-- The character named by exactly four digits, with their number. -/
def fourDigits? (rest : List Char) : Option (Char × Nat) :=
  let hex := rest.take 4
  if hex.length = 4 then ((Hex.value? hex).bind Hex.scalar?).map fun c => (c, 4) else none

/-- The character named by what follows a backslash and the letter `u`, with the number of
characters that name it. -/
def unicode? : List Char → Option (Char × Nat)
  | '{' :: rest => braced? rest
  | rest => fourDigits? rest

/-- The character that the escape after a backslash stands for, with the length of the escape. -/
def escape? : List Char → Option (Char × Nat)
  | [] => none
  | c :: rest =>
    match simple? c with
    | some decoded => some (decoded, 1)
    | none => if c = 'u' then (unicode? rest).map fun r => (r.1, r.2 + 1) else none

/-- The escape that starts with the character `c` before `rest`, if `c` is a backslash. -/
def escapeAt? (c : Char) (rest : List Char) : Option (Char × Nat) :=
  if c = '\\' then escape? rest else none

/-- Decode a text of which the first `skip` characters belong to an escape decoded before. -/
def decodeFrom : Nat → List Char → List Char
  | _, [] => []
  | skip + 1, _ :: rest => decodeFrom skip rest
  | 0, c :: rest =>
    match escapeAt? c rest with
    | some (decoded, consumed) => decoded :: decodeFrom consumed rest
    | none => c :: decodeFrom 0 rest

/-- Whether the character is a control character. -/
def isControl (c : Char) : Bool :=
  c.toNat < 0x20 || (0x7f ≤ c.toNat && c.toNat < 0xa0)

/-- How a character is written between double quotes. -/
def encodeChar (c : Char) : List Char :=
  if c = '\n' then ['\\', 'n']
  else if c = '\r' then ['\\', 'r']
  else if c = '\t' then ['\\', 't']
  else if c = '\\' then ['\\', '\\']
  else if c = '"' then ['\\', '"']
  else if isControl c then ['\\', 'u', '{'] ++ Hex.paddedDigits 4 c.toNat ++ ['}']
  else [c]

end Escape

/-- The text with every known escape replaced by the character it stands for. -/
def unescape (text : String) : String :=
  String.ofList (Escape.decodeFrom 0 text.toList)

/-- The text as it is written between double quotes. -/
def escape (text : String) : String :=
  String.ofList (text.toList.flatMap Escape.encodeChar)

/-- The text between double quotes. -/
def quote (text : String) : String :=
  "\"" ++ escape text ++ "\""

end Peg.Text
