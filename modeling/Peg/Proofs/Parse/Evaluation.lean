import Mathlib.Logic.Relation
import Peg.Proofs.Parse.Runs

/-!
# The evaluations of a run

To evaluate a combinator is to evaluate its operands, each in the state that the ones before it have
left, and to call a rule is to evaluate its body. All evaluations that a run goes through are
reached in this way from the call of its start rule.
-/

namespace Peg.Interpreter

/-- A combinator that is about to be run, with the number of calls that may still be nested. -/
structure Evaluation where
  budget : Nat
  combinator : Combinator
  state : ParseState
  node : ParseTree

/-- How an evaluation ends. -/
def Evaluation.outcome (e : Setting) (program : Program) (v : Evaluation) : Outcome :=
  eval e (Interpreter.call e program v.budget) v.combinator v.state v.node

/-- A loop that starts in state `s` begins a turn in another state, with so many turns behind it. -/
inductive BeginsTurn (max : Option Nat) (body : Step) (s : ParseState) : Nat → ParseState → Prop
    where
  | first : Step.mayContinue max 0 = true → BeginsTurn max body s 0 s
  | next {count : Nat} {t : ParseState} : BeginsTurn max body s count t →
      (body t .empty).verdict = .matched → (body t .empty).state.position ≠ t.position →
      Step.mayContinue max (count + 1) = true →
      BeginsTurn max body s (count + 1) (body t .empty).state

/-- One evaluation starts another one: that of an operand, or that of the body of a rule. -/
inductive Starts (e : Setting) (program : Program) : Evaluation → Evaluation → Prop where
  | sequenceLeft {budget : Nat} {left right : Combinator} {s : ParseState} {node : ParseTree} :
      Starts e program ⟨budget, .sequence left right, s, node⟩ ⟨budget, left, s, .empty⟩
  | sequenceRight {budget : Nat} {left right : Combinator} {s : ParseState} {node : ParseTree}
      {l : Outcome} : Evaluation.outcome e program ⟨budget, left, s, .empty⟩ = l →
      l.verdict = .matched →
      Starts e program ⟨budget, .sequence left right, s, node⟩ ⟨budget, right, l.state, l.node⟩
  | choiceLeft {budget : Nat} {left right : Combinator} {s : ParseState} {node : ParseTree} :
      Starts e program ⟨budget, .choice left right, s, node⟩ ⟨budget, left, s, .empty⟩
  | choiceRight {budget : Nat} {left right : Combinator} {s : ParseState} {node : ParseTree}
      {l : Outcome} : Evaluation.outcome e program ⟨budget, left, s, .empty⟩ = l →
      l.verdict = .failed →
      Starts e program ⟨budget, .choice left right, s, node⟩
        ⟨budget, right, l.state.restore s.position, .empty⟩
  | turn {budget min count : Nat} {max : Option Nat} {body : Combinator} {s t : ParseState}
      {node : ParseTree} :
      BeginsTurn max (eval e (Interpreter.call e program budget) body) s count t →
      Starts e program ⟨budget, .repetition min max body, s, node⟩ ⟨budget, body, t, .empty⟩
  | not {budget : Nat} {body : Combinator} {s : ParseState} {node : ParseTree} :
      Starts e program ⟨budget, .not body, s, node⟩
        ⟨budget, body, { s with suppress := s.suppress + 1 }, .empty⟩
  | drop {budget : Nat} {body : Combinator} {s : ParseState} {node : ParseTree} :
      Starts e program ⟨budget, .drop body, s, node⟩ ⟨budget, body, s, .empty⟩
  | terminal {budget : Nat} {decode : Bool} {body : Combinator} {s : ParseState}
      {node : ParseTree} :
      Starts e program ⟨budget, .terminal decode body, s, node⟩ ⟨budget, body, s, .empty⟩
  | errorName {budget : Nat} {label : String} {promote : Bool} {body : Combinator}
      {s : ParseState} {node : ParseTree} :
      Starts e program ⟨budget, .errorName label promote body, s, node⟩
        ⟨budget, body, { s with labels := ⟨label, promote, s.position⟩ :: s.labels }, node⟩
  | call {budget : Nat} {id : RuleId} {rule : Rule} {s : ParseState} {node : ParseTree} :
      program.rule? id = some rule → s.depth < e.limit →
      Starts e program ⟨budget + 1, .call id, s, node⟩
        ⟨budget, rule.body, s.enterRule rule.name, .ofRule rule.name s.position⟩

/-- The evaluation with which the parse of an input from a rule begins. -/
def firstEvaluation (i : Interpreter) (rule : RuleId) : Evaluation :=
  ⟨i.limit, .call rule, .initial, .empty⟩

/-- The parse of an input from a rule goes through an evaluation. -/
def GoesThrough (i : Interpreter) (rule : RuleId) (input : List Char) (v : Evaluation) : Prop :=
  Relation.ReflTransGen (Starts (i.setting input) i.program) (i.firstEvaluation rule) v

/-- What holds of the first evaluation and goes over from each evaluation to those that it starts
holds of every evaluation that a parse goes through. -/
theorem GoesThrough.induct {i : Interpreter} {rule : RuleId} {input : List Char}
    {P : Evaluation → Prop} (hfirst : P (i.firstEvaluation rule))
    (hstarts : ∀ {v w}, Starts (i.setting input) i.program v w → P v → P w) {v : Evaluation}
    (h : i.GoesThrough rule input v) : P v := by
  induction h with
  | refl => exact hfirst
  | tail _ hstart ih => exact hstarts hstart ih

end Peg.Interpreter
