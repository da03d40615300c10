import Peg.Regex.Automaton
import Peg.Regex.Meaning
import Peg.Regex.Parser
import Peg.Text.Offset

/-!
# Matching at a place of a text

A search runs through all states that can be reached, in order of preference, one character at a
time. Assertions about a place are settled when the next character is known, so acceptance shows one
character late. A search for words of Unicode text gives up at the first character beyond ASCII.
-/

namespace Peg.Regex

open Peg.Text

/-- Whether the character belongs to an ASCII word. -/
def isWordChar (c : Char) : Bool :=
  c.isAlphanum || c = '_'

/-- Whether there is a character and it belongs to an ASCII word. -/
def isWord (c? : Option Char) : Bool :=
  c?.any isWordChar

/-- Whether an assertion holds between two characters. -/
def Look.holds (before? after? : Option Char) : Look → Bool
  | .start => before?.isNone
  | .stop => after?.isNone
  | .startLine => before?.isNone || before? = some '\n'
  | .endLine => after?.isNone || after? = some '\n'
  | .startLineCrlf =>
    before?.isNone || before? = some '\n' || (before? = some '\r' && after? != some '\n')
  | .endLineCrlf =>
    after?.isNone || after? = some '\r' || (after? = some '\n' && before? != some '\r')
  | .wordBoundary _ => isWord before? != isWord after?
  | .notWordBoundary _ => isWord before? == isWord after?
  | .wordStart _ => !isWord before? && isWord after?
  | .wordEnd _ => isWord before? && !isWord after?
  | .wordStartHalf _ => !isWord before?
  | .wordEndHalf _ => !isWord after?

namespace Automaton

/-- The states reached from `pending` without reading a character, behind those of `reached`. Both
lists are in order of preference, the second one in reverse. An assertion is passed when `holds`
says so. Every step uses up a state or shortens the list of pending ones. -/
def closure (a : Automaton) (holds : Look → Bool) : Nat → List Nat → List Nat → List Nat
  | 0, _, reached => reached
  | _, [], reached => reached
  | fuel + 1, id :: pending, reached =>
    if reached.contains id then closure a holds fuel pending reached
    else
      let reached := id :: reached
      match a.states[id]? with
      | some (.branch nexts) => closure a holds fuel (nexts ++ pending) reached
      | some (.check look next) =>
        closure a holds fuel (if holds look then next :: pending else pending) reached
      | _ => closure a holds fuel pending reached

/-- The states reached from several ones, in order of preference. -/
def reach (a : Automaton) (holds : Look → Bool) (ids : List Nat) : List Nat :=
  ids.foldl (fun reached id => a.closure holds a.steps [id] reached) []
    |>.reverse

end Automaton

/-- The states that a search has arrived at by reading the last character, in order of preference,
and whether the text before that character was a match. -/
structure Frontier where
  states : List Nat
  accepted : Bool
  deriving DecidableEq, Repr

/-- Whether nothing more can come of a search. -/
def Frontier.isDead (f : Frontier) : Bool :=
  f.states.isEmpty && !f.accepted

/-- A character that a search refuses to look at, and its offset. -/
structure Refusal where
  byte : UInt8
  offset : Nat
  deriving DecidableEq, Repr

namespace Automaton

/-- The states in which a search starts. -/
def frontier (a : Automaton) : Frontier :=
  ⟨[a.start], false⟩

/-- The states behind a character, and whether one of the given states accepts. States that are
less preferred than acceptance do not count. -/
def advance (a : Automaton) (after? : Option Char) : List Nat → Frontier
  | [] => ⟨[], false⟩
  | id :: ids =>
    match a.states[id]? with
    | some .accept => ⟨[], true⟩
    | some (.read set next) =>
      let f := advance a after? ids
      if after?.any fun c => set.contains c.toNat then { f with states := next :: f.states } else f
    | _ => advance a after? ids

/-- The search behind the next character, or behind the end of the text. -/
def step (a : Automaton) (f : Frontier) (before? after? : Option Char) : Frontier :=
  a.advance after? (a.reach (Look.holds before? after?) f.states)

/-- Continue a search in front of the characters `cs`, which start at `offset`. The result is the
offset behind the best match, given the one found so far. -/
def continueSearch (a : Automaton) (refuses : Bool) (f : Frontier) (before? : Option Char)
    (offset : Nat) (best : Option Nat) : List Char → Except Refusal (Option Nat)
  | [] =>
    if f.isDead then .ok best
    else .ok (if (a.step f before? none).accepted then some offset else best)
  | c :: cs =>
    if f.isDead then .ok best
    else if refuses && 0x80 ≤ c.toNat then
      .error ⟨((String.utf8EncodeChar c).head?).getD 0, offset⟩
    else
      let f := a.step f before? (some c)
      let best := if f.accepted then some offset else best
      continueSearch a refuses f (some c) (offset + c.utf8Size) best cs

/-- The offset behind the match that starts at `start`. The character before the start is looked at
too, and a match never starts inside a character. -/
def matchAt (a : Automaton) (text : List Char) (start : Nat) : Except Refusal (Option Nat) :=
  let refuses := a.checksUnicodeWords
  let before := takeBytes text start
  if byteLength before = start then
    match before.getLast? with
    | some c =>
      if refuses && 0x80 ≤ c.toNat then
        .error ⟨((String.utf8EncodeChar c).getLast?).getD 0, start - 1⟩
      else a.continueSearch refuses a.frontier (some c) start none (dropBytes text start)
    | none => a.continueSearch refuses a.frontier none start none (dropBytes text start)
  else if refuses && start ≤ byteLength text then
    .error ⟨((utf8Bytes text)[start - 1]?).getD 0, start - 1⟩
  else .ok none

end Automaton

/-- The automaton of a pattern. -/
def compile (pattern : String) : Except PatternError Automaton := do
  let (e, _) ← meaning {} (← parse pattern)
  return .ofExpr e

/-- Whether the pattern is a choice that no parentheses enclose. A malformed pattern counts as one
if it contains the sign of a choice. -/
def isChoice (pattern : String) : Bool :=
  match parse pattern with
  | .ok ast => ast.isAlternation
  | .error _ => pattern.toList.contains '|'

end Peg.Regex
