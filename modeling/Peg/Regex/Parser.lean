import Peg.Regex.Scan
import Peg.Text.Alphanumeric

/-!
# Reading patterns

A pattern is read from left to right, and the first thing that is wrong with it is reported. Every
step moves past at least one character, so the length of the pattern bounds the recursion.
-/

namespace Peg.Regex

open Peg.Text

namespace Scanner

/-- Whether a backslash before the character makes it a plain one. -/
def isEscapable (c : Char) : Bool :=
  c.toNat < 0x80 && !c.isAlphanum && c != '<' && c != '>'

/-- The control characters with an escape of one letter. -/
def controlOf? : Char → Option Char
  | 'a' => some '\x07'
  | 'f' => some '\x0c'
  | 't' => some '\t'
  | 'n' => some '\n'
  | 'r' => some '\r'
  | 'v' => some '\x0b'
  | _ => none

/-- The classes with an escape of one letter, a capital letter meaning the complement. -/
def shortClassOf? : Char → Option (ShortClass × Bool)
  | 'd' => some (.digit, false)
  | 's' => some (.space, false)
  | 'w' => some (.word, false)
  | 'D' => some (.digit, true)
  | 'S' => some (.space, true)
  | 'W' => some (.word, true)
  | _ => none

/-- Whether the character may occur in the name of a word boundary. -/
def isBoundaryNameChar (c : Char) : Bool :=
  c.isAlpha || c = '-'

/-- The kind of word boundary whose letter has just been read. A name in braces selects a special
kind; braces with anything else belong to a counted repetition. -/
def wordBoundary : Scanner Assertion := do
  if (← peek?) != some '\x7b' then return .wordBoundary
  let start ← get
  advanceSpaceOr .specialWordOrRepetitionUnexpectedEnd
  match ← peek? with
  | some c =>
    if !isBoundaryNameChar c then
      set start
      return .wordBoundary
  | none => pure ()
  let name ← takeSpaced isBoundaryNameChar (← budget)
  if (← peek?) != some '\x7d' then fail .specialWordBoundaryUnclosed
  advance
  match String.ofList name with
  | "start" => return .wordStart
  | "end" => return .wordEnd
  | "start-half" => return .wordStartHalf
  | "end-half" => return .wordEndHalf
  | _ => fail .specialWordBoundaryUnrecognized

/-- Read an escape, its backslash being next. -/
def escape : Scanner Ast := do
  advance
  let c ← peekOr .escapeUnexpectedEnd
  if c.isDigit then fail .unsupportedBackreference
  if c = 'x' || c = 'u' || c = 'U' then return .literal (← hexEscape c)
  if c = 'p' || c = 'P' then return .property (← propertyQuery) (c = 'P')
  advance
  if let some (kind, negated) := shortClassOf? c then return .short kind negated
  if isEscapable c then return .literal ⟨c, false⟩
  if let some control := controlOf? c then return .literal ⟨control, false⟩
  match c with
  | 'A' => return .assertion .startText
  | 'z' => return .assertion .endText
  | 'b' => return .assertion (← wordBoundary)
  | 'B' => return .assertion .notWordBoundary
  | '<' => return .assertion .wordStart
  | '>' => return .assertion .wordEnd
  | _ => fail .escapeUnrecognized

/-- Read a part of a pattern that no other part is nested in. -/
def primitive (c : Char) : Scanner Ast := do
  if c = '\\' then return ← escape
  advance
  match c with
  | '.' => return .dot
  | '^' => return .assertion .startLine
  | '$' => return .assertion .endLine
  | _ => return .literal ⟨c, false⟩

/-- The class of ASCII characters with a given name. -/
def asciiClassOf? : String → Option AsciiClass
  | "alnum" => some .alnum
  | "alpha" => some .alpha
  | "ascii" => some .ascii
  | "blank" => some .blank
  | "cntrl" => some .cntrl
  | "digit" => some .digit
  | "graph" => some .graph
  | "lower" => some .lower
  | "print" => some .print
  | "punct" => some .punct
  | "space" => some .space
  | "upper" => some .upper
  | "word" => some .word
  | "xdigit" => some .xdigit
  | _ => none

/-- Read a named ASCII class such as `[:^alpha:]` if there is one next, and nothing otherwise. -/
def asciiClass? : Scanner (Option ClassSet) := do
  let start ← get
  if !(← takeText "[:") then return none
  let negated ← takeText "^"
  let s ← get
  let name := String.ofList (s.rest.takeWhile (· != ':'))
  set { s with rest := s.rest.dropWhile (· != ':') }
  let closed ← takeText ":]"
  match asciiClassOf? name with
  | some kind => if closed then return some (.ascii kind negated)
  | none => pure ()
  set start
  return none

/-- Read one end of a range, or an item that is no range. -/
def classItem : Scanner Ast := do
  let c ← peekOr .classUnclosed
  if c = '\\' then return ← escape
  advance
  return .literal ⟨c, false⟩

/-- An item of a bracketed class that stands alone. -/
def classMember : Ast → Scanner ClassSet
  | .literal l => return .literal l
  | .short kind negated => return .short kind negated
  | .property query negated => return .property query negated
  | _ => fail .classEscapeInvalid

/-- An item of a bracketed class as the end of a range. -/
def rangeEnd : Ast → Scanner Literal
  | .literal l => return l
  | _ => fail .classRangeLiteral

/-- Read a range or a single item of a bracketed class. A hyphen before the closing bracket or
before another hyphen makes no range. -/
def classRange : Scanner ClassSet := do
  let first ← classItem
  skipSpace
  let c ← peekOr .classUnclosed
  let behind ← peekBehindSpace?
  if c != '-' || behind = some ']' || behind = some '-' then return ← classMember first
  advanceSpaceOr .classUnclosed
  let last ← classItem
  let low ← rangeEnd first
  let high ← rangeEnd last
  if low.char ≤ high.char then return .range low high else fail .classRangeInvalid

/-- The hyphens that a bracketed class may start with. -/
def leadingHyphens : Nat → Scanner (List ClassSet)
  | 0 => return []
  | fuel + 1 => do
    if (← peek?) = some '-' then
      advanceSpaceOr .classUnclosed
      return .literal ⟨'-', false⟩ :: (← leadingHyphens fuel)
    else return []

/-- Read the start of a bracketed class: whether it is negated, and the hyphens or the bracket that
stand for themselves at its start. The items are in reverse order. -/
def classStart : Scanner (Bool × List ClassSet) := do
  advanceSpaceOr .classUnclosed
  let negated := (← peek?) = some '^'
  if negated then advanceSpaceOr .classUnclosed
  let hyphens ← leadingHyphens (← budget)
  if hyphens.isEmpty && (← peek?) = some ']' then
    advanceSpaceOr .classUnclosed
    return (negated, [.literal ⟨']', false⟩])
  return (negated, hyphens)

/-- The items collected since the last operator, which are in reverse order, as one class. -/
def unionOf : List ClassSet → ClassSet
  | [item] => item
  | items => .union items.reverse

/-- The class to the left of an operator or a closing bracket. -/
def combine (pending : Option (ClassOperator × ClassSet)) (items : List ClassSet) : ClassSet :=
  match pending with
  | none => unionOf items
  | some (operator, left) => .operation operator left (unionOf items)

/-- The operator of two signs that comes next. -/
def classOperator? : Scanner (Option ClassOperator) := do
  match (← get).rest with
  | '&' :: '&' :: _ => return some .intersection
  | '-' :: '-' :: _ => return some .difference
  | '~' :: '~' :: _ => return some .symmetricDifference
  | _ => return none

/-- Read the rest of a bracketed class up to its closing bracket, given the operand and operator to
the left and the items since then in reverse order. -/
def classRest (negated : Bool) : Nat → Option (ClassOperator × ClassSet) → List ClassSet →
    Scanner ClassSet
  | 0, _, _ => fail .classUnclosed
  | fuel + 1, pending, items => do
    skipSpace
    let c ← peekOr .classUnclosed
    if c = '[' then
      match ← asciiClass? with
      | some item => classRest negated fuel pending (item :: items)
      | none =>
        let (innerNegated, start) ← classStart
        let inner ← classRest innerNegated fuel none start
        classRest negated fuel pending (inner :: items)
    else if c = ']' then
      advance
      return .bracketed negated (combine pending items)
    else
      match ← classOperator? with
      | some operator =>
        advance
        advance
        classRest negated fuel (some (operator, combine pending items)) []
      | none => classRest negated fuel pending ((← classRange) :: items)

/-- Read a bracketed class, its opening bracket being next. -/
def bracketed : Scanner Ast := do
  let (negated, start) ← classStart
  match ← classRest negated (← budget) none start with
  | .bracketed negated inner => return .bracketed negated inner
  | set => return .bracketed false set

/-- The flag with a given letter. -/
def flagOf? : Char → Option Flag
  | 'i' => some .caseInsensitive
  | 'm' => some .multiLine
  | 's' => some .dotMatchesNewLine
  | 'U' => some .swapGreed
  | 'u' => some .unicode
  | 'R' => some .crlf
  | 'x' => some .ignoreWhitespace
  | _ => none

/-- Read flags up to a colon or a closing parenthesis, given those before in reverse order. -/
def flagItems : Nat → List FlagItem → Scanner (List FlagItem)
  | 0, _ => fail .flagUnexpectedEnd
  | fuel + 1, items => do
    let c ← peekOr .flagUnexpectedEnd
    if c = ':' || c = ')' then
      if items.head? = some .negation then fail .flagDanglingNegation
      return items.reverse
    if c = '-' then
      if items.contains .negation then fail .flagRepeatedNegation
      advance
      flagItems fuel (.negation :: items)
    else
      match flagOf? c with
      | none => fail .flagUnrecognized
      | some flag =>
        if items.contains (.flag flag) then fail .flagDuplicate
        advance
        flagItems fuel (.flag flag :: items)

/-- Whether the character may start a group name, or continue one. -/
def isNameChar (first : Bool) (c : Char) : Bool :=
  if first then c = '_' || isAlphabetic c
  else c = '_' || c = '.' || c = '[' || c = ']' || isAlphabetic c || isNumeric c

/-- Read the name of a group up to its closing angle bracket. -/
def nameChars : Nat → List Char → Scanner (List Char)
  | 0, _ => fail .groupNameUnexpectedEnd
  | fuel + 1, name => do
    let c ← peekOr .groupNameUnexpectedEnd
    if c = '>' then
      advance
      return name.reverse
    if !isNameChar name.isEmpty c then fail .groupNameInvalid
    advance
    nameChars fuel (c :: name)

/-- Read the name of a group and take note of it. -/
def groupName : Scanner String := do
  let name := String.ofList (← nameChars (← budget) [])
  if name.isEmpty then fail .groupNameEmpty
  if (← get).names.contains name then fail .groupNameDuplicate
  modify fun s => { s with names := name :: s.names }
  return name

/-- Whether one of the look-around operators comes next. It is skipped. -/
def lookAround : Scanner Bool := do
  for sign in ["?=", "?!", "?<=", "?<!"] do
    if ← takeText sign then return true
  return false

/-- What an opening parenthesis starts: flags for the rest of the enclosing group, or a group. -/
inductive Opening where
  | flags (items : List FlagItem)
  | group (kind : GroupKind)

/-- Read an opening parenthesis and what determines its kind. -/
def opening : Scanner Opening := do
  advanceSpace
  if ← lookAround then fail .unsupportedLookAround
  if ← (takeText "?P<" <||> takeText "?<") then return .group (.named (← groupName))
  if ← takeText "?" then
    if ← atEnd then fail .groupUnclosed
    let items ← flagItems (← budget) []
    let closing ← peek?
    advance
    if closing = some ')' then
      if items.isEmpty then fail .repetitionMissing
      return .flags items
    return .group (.flags items)
  return .group .capture

/-- Whether a repetition operator may follow. -/
def isRepeatable : Ast → Bool
  | .empty => false
  | .flags _ => false
  | _ => true

/-- The part that a repetition operator applies to, and the parts before it. -/
def operand : List Ast → Scanner (Ast × List Ast)
  | [] => fail .repetitionMissing
  | part :: parts => if isRepeatable part then return (part, parts) else fail .repetitionMissing

/-- Move past a question mark behind a repetition operator. It makes the repetition reluctant. -/
def greed : Scanner Bool := do
  if (← peek?) = some '?' then
    advance
    return false
  return true

/-- Read a number of a counted repetition. -/
def count : Scanner Nat := fun s =>
  match decimal s with
  | .error .decimalEmpty => .error .repetitionCountDecimalEmpty
  | result => result

/-- Read a counted repetition of a part, its opening brace being next. The numbers are read before
it is known whether the first one was needed. -/
def countedRepetition (body : Ast) : Scanner Ast := do
  advanceSpaceOr .repetitionCountUnclosed
  let start ← get
  let (first, afterFirst) : Except PatternError Nat × Scan :=
    match count start with
    | .ok (n, s) => (.ok n, s)
    | .error e => (.error e, skipNumber start)
  set afterFirst
  let c ← peekOr .repetitionCountUnclosed
  let (min, max) ← (
    if c = ',' then do
      advanceSpaceOr .repetitionCountUnclosed
      if (← peek?) != some '\x7d' then
        let low ← (first : Except PatternError Nat)
        let high ← count
        return (low, some high)
      else return (← (first : Except PatternError Nat), none)
    else do
      let exact ← (first : Except PatternError Nat)
      return (exact, some exact))
  if (← peek?) != some '\x7d' then fail .repetitionCountUnclosed
  advanceSpace
  let greedy ← greed
  if (max.map fun high => decide (high < min)) = some true then fail .repetitionCountInvalid
  return .repetition min max greedy body
where
  /-- What remains behind a number that cannot be used. -/
  skipNumber (s : Scan) : Scan :=
    let skip : Scanner Unit := do
      modify fun s => { s with rest := s.rest.dropWhile isBlank }
      discard (takeSpaced Char.isDigit (← budget))
      discard (takeSpaced isBlank (← budget))
    match skip s with
    | .ok (_, s) => s
    | .error _ => s

/-- The branches read so far and the parts of the current one, both in reverse order, as one
pattern. -/
def close (branches : List Ast) (parts : List Ast) : Ast :=
  let last := Ast.ofParts parts.reverse
  match branches with
  | [] => last
  | _ => .alternation (branches.reverse ++ [last])

/-- Read a pattern up to its end or, inside a group, up to the closing parenthesis. The branches and
parts read so far are in reverse order. -/
def alternatives (inside : Bool) : Nat → List Ast → List Ast → Scanner Ast
  | 0, _, _ => fail .groupUnclosed
  | fuel + 1, branches, parts => do
    skipSpace
    match ← peek? with
    | none => if inside then fail .groupUnclosed else return close branches parts
    | some '(' =>
      match ← opening with
      | .flags items =>
        modify fun s =>
          { s with verbose := (flagState? .ignoreWhitespace items).getD s.verbose }
        alternatives inside fuel branches (.flags items :: parts)
      | .group kind =>
        let outer := (← get).verbose
        let items := match kind with
          | .flags items => items
          | _ => []
        modify fun s =>
          { s with verbose := (flagState? .ignoreWhitespace items).getD s.verbose }
        let body ← alternatives true fuel [] []
        modify fun s => { s with verbose := outer }
        alternatives inside fuel branches (.group kind body :: parts)
    | some ')' =>
      if inside then
        advance
        return close branches parts
      else fail .groupUnopened
    | some '|' =>
      advance
      alternatives inside fuel (Ast.ofParts parts.reverse :: branches) []
    | some '[' => alternatives inside fuel branches ((← bracketed) :: parts)
    | some '?' =>
      let (body, before) ← operand parts
      advance
      alternatives inside fuel branches (.repetition 0 (some 1) (← greed) body :: before)
    | some '*' =>
      let (body, before) ← operand parts
      advance
      alternatives inside fuel branches (.repetition 0 none (← greed) body :: before)
    | some '+' =>
      let (body, before) ← operand parts
      advance
      alternatives inside fuel branches (.repetition 1 none (← greed) body :: before)
    | some '\x7b' =>
      let (body, before) ← operand parts
      alternatives inside fuel branches ((← countedRepetition body) :: before)
    | some c => alternatives inside fuel branches ((← primitive c) :: parts)

end Scanner

/-- The greatest depth to which a pattern may be nested. -/
def nestLimit : Nat := 250

/-- Read a pattern. -/
def parse (pattern : String) : Except PatternError Ast := do
  let cs := pattern.toList
  let (ast, _) ← (Scanner.alternatives false (cs.length + 1) [] []).run ⟨cs, false, []⟩
  if nestLimit < ast.depth then throw (.nestLimitExceeded nestLimit) else return ast

end Peg.Regex
