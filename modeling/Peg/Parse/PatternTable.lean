import Peg.Regex.Search

/-!
# Pattern tables

Every pattern of a parser is compiled once, together with the number of times it is applied in a
row. A pattern has a number, which it keeps. The numbers are found through an index beside the
compiled patterns.
-/

namespace Peg

open Peg.Text

/-- What brings a parse to a halt, other than a mismatch. -/
inductive ParseError where
  /-- Too many nested rule calls, usually because of left recursion. -/
  | recursionLimitExceeded (limit : Nat)
  | invalidPattern (source : String)
  | patternSearch (source : String) (refusal : Regex.Refusal)
  | unknownPatternId (id : Nat)
  | uncompiledPattern (source : String)
  deriving DecidableEq, Repr

namespace ParseError

/-- A byte as two capital hexadecimal digits. -/
def hexByte (byte : UInt8) : String :=
  String.ofList ((Hex.paddedDigits 2 byte.toNat).map Char.toUpper)

/-- What is reported when a parse comes to a halt. -/
def message : ParseError → String
  | .recursionLimitExceeded limit =>
    s!"runtime recursion limit exceeded ({limit} nested rule calls)"
  | .invalidPattern source => s!"invalid pattern `/{source}/`: error building NFA"
  | .patternSearch source refusal =>
    s!"pattern `/{source}/` could not be searched: quit search after observing byte \\x" ++
      s!"{hexByte refusal.byte} at offset {refusal.offset}"
  | .unknownPatternId id => s!"pattern #{id} is not in the pattern table"
  | .uncompiledPattern source => s!"pattern `/{source}/` was not compiled"

end ParseError

/-- A compiled pattern with its source and the number of times it is applied in a row. -/
structure PatternTable.Entry where
  source : String
  times : Nat
  automaton : Regex.Automaton
  deriving Repr

/-- Compiled patterns in the order of their numbers, with an index. -/
structure PatternTable where
  entries : List PatternTable.Entry
  /-- The number of every pattern with its repeat count. The latest entry for a pattern counts. -/
  numbers : List ((String × Nat) × Nat)
  deriving Repr

namespace PatternTable

/-- The table without patterns. -/
def empty : PatternTable :=
  ⟨[], []⟩

/-- The regular expression for a number of matches in a row. -/
def repeatedSource (source : String) (times : Nat) : String :=
  if times = 1 then source else s!"(?:{source})\x7b{times}\x7d"

/-- The number of a pattern. -/
def indexOf? (t : PatternTable) (source : String) (times : Nat) : Option Nat :=
  t.numbers.lookup (source, times)

/-- The pattern with a number. -/
def entry? (t : PatternTable) (id : Nat) : Option Entry :=
  t.entries[id]?

/-- Put a compiled pattern behind the others. -/
def append (t : PatternTable) (entry : Entry) : PatternTable where
  entries := t.entries ++ [entry]
  numbers := ((entry.source, entry.times), t.entries.length) :: t.numbers

/-- Look for a pattern and add it if it is not there. The table afterwards, and the number of the
pattern unless it cannot be compiled. -/
def add (t : PatternTable) (source : String) (times : Nat) :
    PatternTable × Except ParseError Nat :=
  match t.indexOf? source times with
  | some id => (t, .ok id)
  | none =>
    match Regex.compile (repeatedSource source times) with
    | .error _ => (t, .error (.invalidPattern source))
    | .ok automaton => (t.append ⟨source, times, automaton⟩, .ok t.entries.length)

/-- Add a pattern unless it is in the table already, and return its number. -/
def intern (t : PatternTable) (source : String) (times : Nat) :
    Except ParseError (PatternTable × Nat) :=
  let (t, result) := t.add source times
  result.map fun id => (t, id)

/-- Add patterns in order. -/
def internAll (t : PatternTable) : List (String × Nat) → Except ParseError PatternTable
  | [] => .ok t
  | (source, times) :: patterns => do
    let (t, _) ← t.intern source times
    t.internAll patterns

/-- The table of the given patterns, numbered in order of first occurrence. -/
def ofPatterns (patterns : List (String × Nat)) : Except ParseError PatternTable :=
  empty.internAll patterns

/-- The offset behind the match of a pattern that starts at an offset. -/
def matchAt (t : PatternTable) (id : Nat) (text : List Char) (start : Nat) :
    Except ParseError (Option Nat) :=
  match t.entry? id with
  | none => .error (.unknownPatternId id)
  | some entry =>
    match entry.automaton.matchAt text start with
    | .ok stop? => .ok stop?
    | .error refusal => .error (.patternSearch entry.source refusal)

end PatternTable

end Peg
