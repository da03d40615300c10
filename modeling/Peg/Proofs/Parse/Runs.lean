import Peg.Parse.Interpreter
import Peg.Proofs.Parse.Steps
import Peg.Proofs.Parse.Program

/-!
# Induction over runs

A run of a program nests calls of rules, and each rule runs a combinator over its operands. A
property of steps that the single operations keep therefore holds of every run: the induction on the
calls that may still be nested and on the combinator is carried out here, once.
-/

namespace Peg

/-- The step that brings the parse to a halt at once. -/
def Step.halt (error : ParseError) : Step := fun s node =>
  ⟨.halted error, s, node⟩

namespace Interpreter

/-- The relation `P` between combinators and steps is kept by every operation of the parsing
machine. Calls beyond the allowed nesting halt, and so do patterns that were not compiled. -/
structure Compositional (e : Setting) (program : Program) (P : Combinator → Step → Prop) :
    Prop where
  literal (text : String) : P (.literal text) (Step.literal e text)
  pattern {source : String} {times id : Nat} :
    e.patterns.indexOf? source times = some id → P (.pattern source times) (Step.pattern e id)
  uncompiled {source : String} {times : Nat} :
    e.patterns.indexOf? source times = none →
      P (.pattern source times) (Step.halt (.uncompiledPattern source))
  sequence {left right : Combinator} {l r : Step} :
    P left l → P right r → P (.sequence left right) (Step.sequence l r)
  choice {left right : Combinator} {l r : Step} :
    P left l → P right r → P (.choice left right) (Step.choice l r)
  repetition (min : Nat) (max : Option Nat) {body : Combinator} {b : Step} :
    P body b → P (.repetition min max body) (Step.repetition e min max b)
  not {body : Combinator} {b : Step} : P body b → P (.not body) (Step.not b)
  drop {body : Combinator} {b : Step} : P body b → P (.drop body) (Step.drop b)
  terminal (decode : Bool) {body : Combinator} {b : Step} :
    P body b → P (.terminal decode body) (Step.terminal e decode b)
  errorName (label : String) (promote : Bool) {body : Combinator} {b : Step} :
    P body b → P (.errorName label promote body) (Step.errorName label promote b)
  call {id : RuleId} {rule : Rule} {b : Step} :
    program.rule? id = some rule → P rule.body b →
      P (.call id) (Step.call e rule.name rule.capture b)
  exhausted (id : RuleId) : P (.call id) (Step.halt (.recursionLimitExceeded e.limit))

variable {e : Setting} {program : Program} {P : Combinator → Step → Prop}

/-- What holds of the calls of a combinator holds of the combinator. -/
theorem Compositional.eval_of_callee (h : Compositional e program P) {callee : RuleId → Step}
    {c : Combinator} (hcallee : ∀ id ∈ c.calls, P (.call id) (callee id)) :
    P c (eval e callee c) := by
  induction c with
  | literal text => exact h.literal text
  | pattern source times =>
    cases hid : e.patterns.indexOf? source times with
    | none =>
      have heval : eval e callee (.pattern source times) =
          Step.halt (.uncompiledPattern source) := by
        funext s node
        simp only [eval, hid, Step.halt]
      rw [heval]
      exact h.uncompiled hid
    | some id =>
      have heval : eval e callee (.pattern source times) = Step.pattern e id := by
        funext s node
        simp only [eval, hid]
      rw [heval]
      exact h.pattern hid
  | sequence left right ihl ihr =>
    rw [Combinator.calls_sequence, List.forall_mem_append] at hcallee
    exact h.sequence (ihl hcallee.1) (ihr hcallee.2)
  | choice left right ihl ihr =>
    rw [Combinator.calls_choice, List.forall_mem_append] at hcallee
    exact h.choice (ihl hcallee.1) (ihr hcallee.2)
  | repetition min max body ih =>
    rw [Combinator.calls_repetition] at hcallee
    exact h.repetition min max (ih hcallee)
  | not body ih =>
    rw [Combinator.calls_not] at hcallee
    exact h.not (ih hcallee)
  | drop body ih =>
    rw [Combinator.calls_drop] at hcallee
    exact h.drop (ih hcallee)
  | terminal decode body ih =>
    rw [Combinator.calls_terminal] at hcallee
    exact h.terminal decode (ih hcallee)
  | errorName label promote body ih =>
    rw [Combinator.calls_errorName] at hcallee
    exact h.errorName label promote (ih hcallee)
  | call id => exact hcallee id (by simp)

/-- A relation that every operation keeps holds of each rule that is called. -/
theorem Compositional.call_run (h : Compositional e program P) (budget : Nat) {id : RuleId}
    (hid : (program.rule? id).isSome = true) :
    P (.call id) (Interpreter.call e program budget id) := by
  induction budget generalizing id with
  | zero => exact h.exhausted id
  | succ budget ih =>
    obtain ⟨rule, hrule⟩ := Option.isSome_iff_exists.mp hid
    have hcall : Interpreter.call e program (budget + 1) id = Step.call e rule.name rule.capture
        (eval e (Interpreter.call e program budget) rule.body) := by
      funext s node
      simp only [Interpreter.call, hrule]
    rw [hcall]
    refine h.call hrule (h.eval_of_callee ?_)
    intro target htarget
    exact ih (Program.resolves_body hrule target htarget)

/-- If the relation also holds of the calls of rules that do not exist, which fail at once, then it
holds of all calls. -/
theorem Compositional.call_run_of_failed (h : Compositional e program P)
    (hfailed : ∀ id, P (.call id) fun s node => ⟨.failed, s, node⟩) (budget : Nat) (id : RuleId) :
    P (.call id) (Interpreter.call e program budget id) := by
  cases hrule : program.rule? id with
  | some rule => exact h.call_run budget (by simp [hrule])
  | none =>
    cases budget with
    | zero => exact h.exhausted id
    | succ budget =>
      have hcall : Interpreter.call e program (budget + 1) id =
          fun s node => ⟨.failed, s, node⟩ := by
        funext s node
        simp only [Interpreter.call, hrule]
      rw [hcall]
      exact hfailed id

/-- A relation that every operation keeps holds of each combinator whose calls exist. -/
theorem Compositional.eval_run (h : Compositional e program P) (budget : Nat) {c : Combinator}
    (hc : program.Resolves c) : P c (eval e (Interpreter.call e program budget) c) :=
  h.eval_of_callee fun id hid => h.call_run budget (hc id hid)

/-- How the call of a rule at the start of an input ends. -/
def outcome (i : Interpreter) (rule : RuleId) (input : List Char) : Outcome :=
  Interpreter.call (i.setting input) i.program i.limit rule .initial .empty

/-- A parse returns a result exactly if the call of its start rule does not halt. -/
theorem parseFrom_eq_ok {i : Interpreter} {rule : RuleId} {input : List Char} {parse : Parse}
    {events : List Event} (h : i.parseFrom rule input = .ok (parse, events)) :
    ∃ s, runStep (i.setting input)
        (Interpreter.call (i.setting input) i.program i.limit rule) .initial = (.ok parse, s) ∧
      events = s.trace.reverse := by
  simp only [parseFrom] at h
  split at h
  next found s hrun =>
    cases h
    exact ⟨s, hrun, rfl⟩
  · cases h

end Interpreter

end Peg
