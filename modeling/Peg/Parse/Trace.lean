import Peg.Program.Outline
import Peg.Text.Offset

/-!
# Traces

The events of a parse, and their transcript. The lines of a transcript are indented by the number of
rule calls that are under way.
-/

namespace Peg

open Peg.Text

/-- What happens during a parse. Places are byte offsets into the input. -/
inductive Event where
  | enter (rule : String) (position : Nat)
  | exit (rule : String) (position : Nat) (matched : Bool)
  | success (start stop : Nat)
  | failure (expectation : String) (position : Nat)
  | backtrack (source target : Nat)
  deriving DecidableEq, Repr

/-- How much a transcript tells: rule calls and backtracking, leaf matches as well, or these with
the matched text. -/
inductive Verbosity where
  | default
  | verbose
  | veryVerbose
  deriving DecidableEq, Repr

namespace Event

/-- What a transcript says about an event, if anything. -/
def line? (source : List Char) (verbosity : Verbosity) : Event → Option String
  | .enter rule position => some s!"> {rule} @{position}"
  | .exit rule position matched =>
    some (s!"< {rule} @{position} " ++ if matched then "ok" else "fail")
  | .success start stop =>
    match verbosity with
    | .default => none
    | .verbose => some s!"+ {start}..{stop}"
    | .veryVerbose =>
      let text := String.ofList ((slice? source start stop).getD [])
      some s!"+ {start}..{stop} {quote text}"
  | .failure expectation position =>
    if verbosity = .default then none else some s!"- {expectation} @{position}"
  | .backtrack source target => some s!"<< {source} -> {target}"

/-- The number of calls under way before the line of an event, and after it. -/
def depths (depth : Nat) : Event → Nat × Nat
  | .enter _ _ => (depth, depth + 1)
  | .exit _ _ _ => (depth - 1, depth - 1)
  | _ => (depth, depth)

end Event

/-- The lines about events that begin while `depth` calls are under way. -/
def transcriptFrom (source : List Char) (verbosity : Verbosity) (depth : Nat) :
    List Event → List String
  | [] => []
  | event :: events =>
    let (before, after) := event.depths depth
    let rest := transcriptFrom source verbosity after events
    match event.line? source verbosity with
    | some line => (indentation before ++ line) :: rest
    | none => rest

/-- The lines about the events of a parse. -/
def transcript (source : List Char) (verbosity : Verbosity) (events : List Event) : List String :=
  transcriptFrom source verbosity 0 events

/-- Lines as one text, each with a line feed behind it. A single empty line yields no text. -/
def joinLines (lines : List String) : String :=
  let text := "\n".intercalate lines
  if text.isEmpty then "" else text ++ "\n"

end Peg
