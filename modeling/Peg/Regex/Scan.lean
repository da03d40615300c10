import Peg.Regex.Ast
import Peg.Regex.Error
import Peg.Text.Blank
import Peg.Text.Hex

/-!
# Scanning a pattern

The state in which a pattern is read, and the steps that move through its characters. In verbose
mode blanks and comments between the parts of a pattern are skipped.
-/

namespace Peg.Regex

open Peg.Text

/-- What remains of a pattern, whether verbose mode is on, and the group names seen so far. -/
structure Scan where
  rest : List Char
  verbose : Bool
  names : List String
  deriving Repr

/-- A step in reading a pattern. -/
abbrev Scanner (α : Type) := StateT Scan (Except PatternError) α

namespace Scanner

/-- What follows the blanks and comments at the start of `cs`, which may lie inside a comment. -/
def afterSpace (inComment : Bool) : List Char → List Char
  | [] => []
  | c :: cs =>
    if inComment then afterSpace (c != '\n') cs
    else if isBlank c then afterSpace false cs
    else if c = '#' then afterSpace true cs
    else c :: cs

/-- Give up with an error. -/
def fail {α : Type} (e : PatternError) : Scanner α :=
  throw e

/-- The next character, or nothing at the end. -/
def peek? : Scanner (Option Char) := do
  return (← get).rest.head?

/-- Whether the pattern is used up. -/
def atEnd : Scanner Bool := do
  return (← get).rest.isEmpty

/-- Skip blanks and comments if verbose mode is on. -/
def skipSpace : Scanner Unit :=
  modify fun s => if s.verbose then { s with rest := afterSpace false s.rest } else s

/-- Move past the next character. -/
def advance : Scanner Unit :=
  modify fun s => { s with rest := s.rest.tail }

/-- Move past the next character and the space behind it. -/
def advanceSpace : Scanner Unit := do
  advance
  skipSpace

/-- Move past the next character and the space behind it, which must not reach the end. -/
def advanceSpaceOr (e : PatternError) : Scanner Unit := do
  advanceSpace
  if ← atEnd then fail e

/-- The next character, which has to exist. -/
def peekOr (e : PatternError) : Scanner Char := do
  match ← peek? with
  | some c => return c
  | none => fail e

/-- Move past a text if it comes next. -/
def takeText (text : String) : Scanner Bool := do
  let s ← get
  if text.toList.isPrefixOf s.rest then
    set { s with rest := s.rest.drop text.length }
    return true
  else return false

/-- The characters that the blank scan of a class range passes over. A comment hides only its
opening sign and the blanks around it. -/
def behindSpace? (inComment : Bool) : List Char → Option Char
  | [] => none
  | c :: cs =>
    if isBlank c then behindSpace? inComment cs
    else if !inComment && c = '#' then behindSpace? true cs
    else some c

/-- The character behind the next one and, in verbose mode, the space after it. -/
def peekBehindSpace? : Scanner (Option Char) := do
  let s ← get
  if s.verbose then return behindSpace? false s.rest.tail <|> s.rest[1]?
  else return s.rest[1]?

/-- Move past the characters that satisfy `test`, and past the space behind each. Return them. -/
def takeSpaced (test : Char → Bool) : Nat → Scanner (List Char)
  | 0 => return []
  | fuel + 1 => do
    match ← peek? with
    | some c =>
      if test c then
        advanceSpace
        return c :: (← takeSpaced test fuel)
      else return []
    | none => return []

/-- The number of steps that suffice to read what remains. -/
def budget : Scanner Nat := do
  return (← get).rest.length + 1

/-- Read a decimal number that fits into 32 bits. Blanks around it are allowed in any mode. -/
def decimal : Scanner Nat := do
  modify fun s => { s with rest := s.rest.dropWhile isBlank }
  let digits ← takeSpaced Char.isDigit (← budget)
  discard (takeSpaced isBlank (← budget))
  if digits.isEmpty then fail .decimalEmpty
  let value := digits.foldl (fun n d => 10 * n + (d.toNat - '0'.toNat)) 0
  if value < 0x100000000 then return value else fail .decimalInvalid

/-- The character with a code that was read from hexadecimal digits. -/
def scalarOf (digits : List Char) : Scanner Char := do
  match (Hex.value? digits).bind Hex.scalar? with
  | some c => return c
  | none => fail .escapeHexInvalid

/-- Read a fixed number of hexadecimal digits. -/
def hexDigits : Nat → Scanner (List Char)
  | 0 => return []
  | count + 1 => do
    let c ← peekOr .escapeUnexpectedEnd
    if !Hex.isDigit c then fail .escapeHexInvalidDigit
    advanceSpace
    return c :: (← hexDigits count)

/-- Read hexadecimal digits up to a closing brace, the opening one being next. -/
def hexBraced : Scanner (List Char) := do
  advanceSpace
  let digits ← takeSpaced Hex.isDigit (← budget)
  let c ← peekOr .escapeUnexpectedEnd
  if c != '\x7d' then fail .escapeHexInvalidDigit
  advanceSpace
  if digits.isEmpty then fail .escapeHexEmpty
  return digits

/-- Read a hexadecimal escape whose letter comes next. -/
def hexEscape (letter : Char) : Scanner Literal := do
  advanceSpaceOr .escapeUnexpectedEnd
  if (← peek?) = some '\x7b' then
    return ⟨← scalarOf (← hexBraced), false⟩
  let count := if letter = 'x' then 2 else if letter = 'u' then 4 else 8
  return ⟨← scalarOf (← hexDigits count), letter = 'x'⟩

/-- Read the name of a Unicode property, the letter of the escape being next. -/
def propertyQuery : Scanner PropertyQuery := do
  advanceSpaceOr .escapeUnexpectedEnd
  let c ← peekOr .escapeUnexpectedEnd
  if c = '\x7b' then
    advanceSpace
    let name ← takeSpaced (· != '\x7d') (← budget)
    if ← atEnd then fail .escapeUnexpectedEnd
    advance
    return queryOf name
  else
    if c = '\\' then fail .unicodeClassInvalid
    advanceSpace
    return .letter c
where
  /-- Cut the name at the first relation sign. An inequality anywhere wins, then a colon. -/
  queryOf (name : List Char) : PropertyQuery :=
    match splitAt ['!', '='] [] name with
    | some (left, right) => .valued (String.ofList left) (String.ofList right) true
    | none =>
      match splitAt [':'] [] name <|> splitAt ['='] [] name with
      | some (left, right) => .valued (String.ofList left) (String.ofList right) false
      | none => .named (String.ofList name)
  /-- The parts before and after the first occurrence of a sign. -/
  splitAt (sign : List Char) (before : List Char) : List Char → Option (List Char × List Char)
    | [] => none
    | c :: cs =>
      if sign.isPrefixOf (c :: cs) then some (before.reverse, (c :: cs).drop sign.length)
      else splitAt sign (c :: before) cs

end Scanner

end Peg.Regex
