import Peg.Regex.Expr

/-!
# Automata

A regular expression as a graph of states. Branches are ordered by preference, and only states that
read a character, check an assertion or accept matter for a search.
-/

namespace Peg.Regex

/-- What happens in a state, and the states that may follow. -/
inductive State where
  | read (set : CharSet) (next : Nat)
  | check (look : Look) (next : Nat)
  | branch (nexts : List Nat)
  | accept
  deriving Repr

/-- The number of ways to leave a state without reading a character. -/
def State.exits : State → Nat
  | .branch nexts => nexts.length
  | .check _ _ => 1
  | _ => 0

/-- States by their numbers, the one to start in, and a number of steps that suffices to follow
every exit once. -/
structure Automaton where
  states : Array State
  start : Nat
  steps : Nat
  deriving Repr

namespace Automaton

/-- Add a state and return its number. -/
def add (states : Array State) (state : State) : Array State × Nat :=
  (states.push state, states.size)

/-- A branch into `body` or past it, which a greedy repetition prefers in this order. -/
def option (greedy : Bool) (body next : Nat) : State :=
  .branch (if greedy then [body, next] else [next, body])

/-- Chain `count` copies of what `build` adds, ending in state `next`. -/
def copies (build : Array State → Nat → Array State × Nat) :
    Nat → Array State → Nat → Array State × Nat
  | 0, states, next => (states, next)
  | count + 1, states, next =>
    let (states, next) := build states next
    copies build count states next

/-- Nest `count` optional copies of what `build` adds, each one leading to state `stop` when it is
skipped. -/
def optionalCopies (build : Array State → Nat → Array State × Nat) (greedy : Bool) (stop : Nat) :
    Nat → Array State → Nat → Array State × Nat
  | 0, states, next => (states, next)
  | count + 1, states, next =>
    let (states, body) := build states next
    let (states, entry) := add states (option greedy body stop)
    optionalCopies build greedy stop count states entry

/-- Repeat what `build` adds at least `min` times and without a bound. A body that may consume
nothing is entered only through its first copy, which keeps the preferences in order. -/
def unbounded (build : Array State → Nat → Array State × Nat) (consumes greedy : Bool) (min : Nat)
    (states : Array State) (next : Nat) : Array State × Nat :=
  let (states, loop) := add states (.branch [])
  let (states, body) := build states loop
  let states := states.setIfInBounds loop (option greedy body next)
  match min with
  | 0 => if consumes then (states, loop) else add states (option greedy body next)
  | count + 1 => copies build count states body

/-- Add the states that read a text and lead to state `next`. -/
def buildText : List Char → Array State → Nat → Array State × Nat
  | [], states, next => (states, next)
  | c :: cs, states, next =>
    let (states, rest) := buildText cs states next
    add states (.read (.single c) rest)

mutual

/-- Add the states of an expression that lead to state `next`. The result is the state in which the
expression starts. -/
def build : Expr → Array State → Nat → Array State × Nat
  | .empty, states, next => (states, next)
  | .literal text, states, next => buildText text states next
  | .char set _, states, next => add states (.read set next)
  | .look look, states, next => add states (.check look next)
  | .repetition min none greedy body, states, next =>
    unbounded (build body) body.consumesSomething greedy min states next
  | .repetition min (some max) greedy body, states, next =>
    let (states, next) := optionalCopies (build body) greedy next (max - min) states next
    copies (build body) min states next
  | .capture body, states, next => build body states next
  | .concat parts, states, next => buildAll parts states next
  | .alternation branches, states, next =>
    let (states, starts) := buildEach branches states next
    add states (.branch starts)

/-- Add the states of several expressions in a row. -/
def buildAll : List Expr → Array State → Nat → Array State × Nat
  | [], states, next => (states, next)
  | part :: parts, states, next =>
    let (states, rest) := buildAll parts states next
    build part states rest

/-- Add the states of several expressions side by side. -/
def buildEach : List Expr → Array State → Nat → Array State × List Nat
  | [], states, _ => (states, [])
  | branch :: branches, states, next =>
    let (states, start) := build branch states next
    let (states, starts) := buildEach branches states next
    (states, start :: starts)

end

/-- The automaton of an expression. -/
def ofExpr (e : Expr) : Automaton :=
  let (states, start) := build e #[.accept] 0
  ⟨states, start, states.foldl (fun n state => n + state.exits) 2⟩

/-- Whether a state checks words of Unicode text. -/
def checksUnicodeWords (a : Automaton) : Bool :=
  a.states.any fun
    | .check look _ => look.isUnicodeWord
    | _ => false

end Automaton

end Peg.Regex
