import Peg.Proofs.Except
import Peg.Proofs.Parse.Frame
import Peg.Proofs.Parse.Furthest
import Peg.Proofs.Parse.Lockstep

/-!
# Error names do not interfere

The names under which failures are reported have a say in nothing but the texts of messages. Two
programs that differ in these names only go through the same events and yield the same results; the
states in between differ in what is expected at the furthest failure, and never in where that is.
-/

namespace Peg

namespace Combinator

/-- The combinator without error names. -/
def unnamed : Combinator → Combinator
  | literal text => literal text
  | pattern source times => pattern source times
  | sequence left right => sequence left.unnamed right.unnamed
  | choice left right => choice left.unnamed right.unnamed
  | repetition min max body => repetition min max body.unnamed
  | not body => not body.unnamed
  | drop body => drop body.unnamed
  | terminal decode body => terminal decode body.unnamed
  | errorName _ _ body => body.unnamed
  | call rule => call rule

/-- Without error names there are none to take away. -/
@[simp] theorem unnamed_unnamed (c : Combinator) : c.unnamed.unnamed = c.unnamed := by
  induction c with
  | literal | pattern | call => rfl
  | sequence left right ihl ihr => rw [unnamed, unnamed, ihl, ihr]
  | choice left right ihl ihr => rw [unnamed, unnamed, ihl, ihr]
  | repetition min max body ih => rw [unnamed, unnamed, ih]
  | not body ih => rw [unnamed, unnamed, ih]
  | drop body ih => rw [unnamed, unnamed, ih]
  | terminal decode body ih => rw [unnamed, unnamed, ih]
  | errorName label promote body ih => exact ih

/-- Error names do not change what is called. -/
@[simp] theorem calls_unnamed (c : Combinator) : c.unnamed.calls = c.calls := by
  induction c with
  | literal | pattern | call => rfl
  | sequence left right ihl ihr => simp [unnamed, ihl, ihr]
  | choice left right ihl ihr => simp [unnamed, ihl, ihr]
  | repetition min max body ih => simp [unnamed, ih]
  | not body ih => simp [unnamed, ih]
  | drop body ih => simp [unnamed, ih]
  | terminal decode body ih => simp [unnamed, ih]
  | errorName label promote body ih => simp [unnamed, ih]

/-- Error names do not change the patterns. -/
@[simp] theorem patterns_unnamed (c : Combinator) : c.unnamed.patterns = c.patterns := by
  unfold patterns
  induction c with
  | literal | pattern | call => rfl
  | sequence left right ihl ihr => simp [unnamed, preorder, ihl, ihr]
  | choice left right ihl ihr => simp [unnamed, preorder, ihl, ihr]
  | repetition min max body ih => simp [unnamed, preorder, ih]
  | not body ih => simp [unnamed, preorder, ih]
  | drop body ih => simp [unnamed, preorder, ih]
  | terminal decode body ih => simp [unnamed, preorder, ih]
  | errorName label promote body ih => simp [unnamed, preorder, ih]

end Combinator

/-- The rule without error names. -/
def Rule.unnamed (r : Rule) : Rule :=
  { r with body := r.body.unnamed }

namespace Program

/-- Error names do not make a rule defective. -/
theorem ruleDefect?_map_unnamed (count : Nat) (names : Text.TextSet) (rules : List Rule) :
    ruleDefect? count names (rules.map Rule.unnamed) = ruleDefect? count names rules := by
  induction rules generalizing names with
  | nil => rfl
  | cons rule rules ih => simp only [List.map_cons, ruleDefect?, Rule.unnamed,
      Combinator.calls_unnamed, ih]

/-- Error names do not make a list of rules defective. -/
theorem defect?_map_unnamed (rules : List Rule) (entry : RuleId) :
    defect? (rules.map Rule.unnamed) entry = defect? rules entry := by
  simp only [defect?, List.isEmpty_map, List.length_map, ruleDefect?_map_unnamed]

/-- The program without error names. -/
def unnamed (p : Program) : Program where
  rules := p.rules.map Rule.unnamed
  entry := p.entry
  sound := (defect?_map_unnamed p.rules p.entry).trans p.sound

/-- Without error names a program has none to take away. -/
@[simp] theorem unnamed_unnamed (p : Program) : p.unnamed.unnamed = p.unnamed := by
  simp [unnamed, Rule.unnamed, Function.comp_def]

/-- Error names do not change the list of patterns. -/
@[simp] theorem patterns_unnamed (p : Program) : p.unnamed.patterns = p.patterns := by
  simp [patterns, unnamed, Rule.unnamed, List.flatMap_map]

/-- The rules of the program without error names are its rules without them. -/
theorem rule?_unnamed (p : Program) (id : RuleId) :
    p.unnamed.rule? id = (p.rule? id).map Rule.unnamed :=
  List.getElem?_map

end Program

namespace ParseState

/-- The states differ at most in the labels in force and in what is expected at the furthest
failure. -/
structure SameButLabels (s t : ParseState) : Prop where
  position : t.position = s.position
  failure : t.failure.position = s.failure.position
  suppress : t.suppress = s.suppress
  depth : t.depth = s.depth
  trace : t.trace = s.trace

/-- A state differs in nothing from itself. -/
theorem SameButLabels.refl (s : ParseState) : s.SameButLabels s :=
  ⟨rfl, rfl, rfl, rfl, rfl⟩

variable {s t : ParseState}

/-- A failure is an event with what is expected by nature, whatever the labels in force are. -/
theorem trace_fail (s : ParseState) (natural : String) :
    (s.fail natural).trace = .failure natural s.position :: s.trace := by
  simp only [fail]
  split
  · rfl
  · rfl

/-- Logging an event makes no new difference. -/
theorem SameButLabels.emit (h : s.SameButLabels t) (event : Event) :
    (s.emit event).SameButLabels (t.emit event) :=
  ⟨h.position, h.failure, h.suppress, h.depth, congrArg (event :: ·) h.trace⟩

/-- A label may change what is recorded about a failure, but not where it is recorded. -/
theorem SameButLabels.fail (h : s.SameButLabels t) (natural : String) :
    (s.fail natural).SameButLabels (t.fail natural) := by
  have hframe := sameFrame_fail s natural
  have hframe' := sameFrame_fail t natural
  refine ⟨by simp [h.position], ?_, ?_, ?_, ?_⟩
  · rw [failurePosition_fail, failurePosition_fail, h.suppress, h.failure, h.position]
  · rw [hframe'.suppress, h.suppress, hframe.suppress]
  · rw [hframe'.depth, h.depth, hframe.depth]
  · rw [trace_fail, trace_fail, h.position, h.trace]

/-- Accepting input makes no new difference. -/
theorem SameButLabels.accept (h : s.SameButLabels t) (stop : Nat) :
    (s.accept stop).SameButLabels (t.accept stop) := by
  refine ⟨rfl, ?_, h.suppress, h.depth, ?_⟩
  · rw [failurePosition_accept, failurePosition_accept, h.failure]
  · simp only [ParseState.accept, ParseState.emit, h.position, h.trace]

/-- No move of the machine looks at the labels or at what is expected. -/
theorem correspondence_sameButLabels : Correspondence SameButLabels where
  position_eq h := h.position
  depth_eq h := h.depth
  emit h := h.emit
  move h _ := ⟨rfl, h.failure, h.suppress, h.depth, h.trace⟩
  mute h f := ⟨h.position, h.failure, congrArg f h.suppress, h.depth, h.trace⟩
  nest h f := ⟨h.position, h.failure, h.suppress, congrArg f h.depth, h.trace⟩
  label h _ := ⟨h.position, h.failure, h.suppress, h.depth, h.trace⟩
  fail h := h.fail
  accept h := h.accept

end ParseState

open ParseState

/-- A step with an error name does what it does without the name. -/
theorem Step.Lockstep.named {drops : ParseError → Prop} {body body' : Step}
    (h : Lockstep drops SameButLabels body body') (label : String) (promote : Bool) :
    Lockstep drops SameButLabels (Step.errorName label promote body) body' := by
  intro s s' node hs
  have hinside : SameButLabels { s with labels := ⟨label, promote, s.position⟩ :: s.labels } s' :=
    ⟨hs.position, hs.failure, hs.suppress, hs.depth, hs.trace⟩
  rcases h _ _ node hinside with hdrop | ⟨hverdict, hnode, hstate⟩
  · exact .inl hdrop
  · exact .inr ⟨hverdict, hnode,
      hstate.position, hstate.failure, hstate.suppress, hstate.depth, hstate.trace⟩

namespace Interpreter

/-- Whatever the calls of a combinator do, it does the same without its error names. -/
theorem lockstep_unnamed_of_callee (e : Setting) {drops : ParseError → Prop}
    {callee callee' : RuleId → Step}
    (hcallee : ∀ id, Step.Lockstep drops SameButLabels (callee id) (callee' id))
    (c : Combinator) :
    Step.Lockstep drops SameButLabels (eval e callee c) (eval e callee' c.unnamed) := by
  have hS := correspondence_sameButLabels
  induction c with
  | literal text => exact Step.lockstep_literal hS text
  | pattern source times =>
    cases hid : e.patterns.indexOf? source times with
    | none =>
      intro s s' node hs
      simp only [Combinator.unnamed, eval, hid]
      exact Step.lockstep_halt (.uncompiledPattern source) s s' node hs
    | some id =>
      intro s s' node hs
      simp only [Combinator.unnamed, eval, hid]
      exact Step.lockstep_pattern hS id s s' node hs
  | sequence left right ihl ihr => exact ihl.sequence hS ihr
  | choice left right ihl ihr => exact ihl.choice hS ihr
  | repetition min max body ih => exact ih.repetition hS min max
  | not body ih => exact ih.not hS
  | drop body ih => exact ih.drop
  | terminal decode body ih => exact ih.terminal hS decode
  | errorName label promote body ih => exact ih.named label promote
  | call id => exact hcallee id

/-- The call of a rule does what it does in the program without error names. -/
theorem lockstep_unnamed (e : Setting) (program : Program) (budget : Nat) (id : RuleId) :
    Step.Lockstep (fun _ => False) SameButLabels (Interpreter.call e program budget id)
      (Interpreter.call e program.unnamed budget id) := by
  induction budget generalizing id with
  | zero => exact Step.lockstep_halt _
  | succ budget ih =>
    intro s s' node hs
    simp only [Interpreter.call, Program.rule?_unnamed]
    cases program.rule? id with
    | none => exact Step.lockstep_failed s s' node hs
    | some rule =>
      have hbody := lockstep_unnamed_of_callee e ih rule.body
      exact hbody.call correspondence_sameButLabels (.inl rfl) rule.name rule.capture s s' node hs

end Interpreter

/-- The parse without the texts of its messages. -/
def Parse.wordless (p : Parse) : Parse :=
  { p with messages := p.messages.map fun m => { m with text := "" } }

namespace Program

/-- Compile the patterns of a program and parse an input from one of its rules. The events are
returned as well, in order. -/
def parseFrom (p : Program) (limit : Nat) (rule : RuleId) (input : List Char) :
    Except ParseError (Parse × List Event) := do
  let i ← Interpreter.ofProgram p limit
  i.parseFrom rule input

/-- What a program answers to an input, apart from the texts of messages. -/
def answer (p : Program) (limit : Nat) (rule : RuleId) (input : List Char) :
    Except ParseError (Parse × List Event) :=
  (p.parseFrom limit rule input).map (Prod.map Parse.wordless id)

/-- Without its error names a program answers the same. -/
theorem answer_unnamed (p : Program) (limit : Nat) (rule : RuleId) (input : List Char) :
    p.unnamed.answer limit rule input = p.answer limit rule input := by
  cases hpatterns : PatternTable.ofPatterns p.patterns with
  | error error =>
    have hunnamed : PatternTable.ofPatterns p.unnamed.patterns = .error error := by
      rw [patterns_unnamed, hpatterns]
    simp only [answer, parseFrom, Interpreter.ofProgram_eq_error hpatterns,
      Interpreter.ofProgram_eq_error hunnamed]
  | ok patterns =>
    have hunnamed : PatternTable.ofPatterns p.unnamed.patterns = .ok patterns := by
      rw [patterns_unnamed, hpatterns]
    simp only [answer, parseFrom, Interpreter.ofProgram_eq_ok hpatterns,
      Interpreter.ofProgram_eq_ok hunnamed, ok_bind, Interpreter.parseFrom, Interpreter.setting]
    have hentry := Interpreter.lockstep_unnamed ⟨input, patterns, limit⟩ p limit rule
    rcases hentry.runStep correspondence_sameButLabels (.refl ParseState.initial.restart) with
      ⟨_, hfalse, _⟩ | halike
    · exact hfalse.elim
    -- The settings of the two runs are the same one, since their limits are.
    generalize runStep _ (Interpreter.call _ p limit rule) _ = run at halike ⊢
    generalize runStep _ (Interpreter.call _ p.unnamed limit rule) _ = run' at halike ⊢
    cases halike with
    | halted => rfl
    | @succeeded root s s' hs =>
      dsimp only
      rw [hs.trace]
    | @failed root s s' hs =>
      dsimp only [Except.map, Prod.map, Parse.wordless, Parse.ofFailure, List.map, Message.error]
      rw [hs.trace, hs.failure]

/-- The names under which failures are reported do not interfere with parsing. Two programs that
are the same without these names answer the same to every input, from every rule and under every
limit: the same error, or else the same result and the same events. Only the text of a message may
be another one. -/
theorem error_names_only_reword {p p' : Program} (h : p'.unnamed = p.unnamed) (limit : Nat)
    (rule : RuleId) (input : List Char) :
    (∃ error, p.parseFrom limit rule input = .error error ∧
        p'.parseFrom limit rule input = .error error) ∨
      ∃ parse parse' events, p.parseFrom limit rule input = .ok (parse, events) ∧
        p'.parseFrom limit rule input = .ok (parse', events) ∧
        parse'.success = parse.success ∧ parse'.root = parse.root ∧
        parse'.failureOffset = parse.failureOffset ∧
        parse'.messages.map Message.position = parse.messages.map Message.position := by
  have hanswer : p'.answer limit rule input = p.answer limit rule input := by
    rw [← p'.answer_unnamed, h, p.answer_unnamed]
  unfold answer at hanswer
  cases hrun : p.parseFrom limit rule input with
  | error error =>
    cases hrun' : p'.parseFrom limit rule input with
    | error error' =>
      rw [hrun, hrun'] at hanswer
      cases hanswer
      exact .inl ⟨error, rfl, rfl⟩
    | ok result' =>
      rw [hrun, hrun'] at hanswer
      cases hanswer
  | ok result =>
    cases hrun' : p'.parseFrom limit rule input with
    | error error' =>
      rw [hrun, hrun'] at hanswer
      cases hanswer
    | ok result' =>
      obtain ⟨parse, events⟩ := result
      obtain ⟨parse', events'⟩ := result'
      rw [hrun, hrun'] at hanswer
      obtain ⟨hparse, rfl⟩ := Prod.mk.inj (Except.ok.inj hanswer)
      have hmessages := congrArg (fun q => q.messages.map Message.position) hparse
      simp only [Parse.wordless, List.map_map] at hmessages
      have hsuccess := congrArg Parse.success hparse
      have hroot := congrArg Parse.root hparse
      have hoffset := congrArg Parse.failureOffset hparse
      exact .inr ⟨parse, parse', events', rfl, rfl, hsuccess, hroot, hoffset, hmessages⟩

/-- One of two letters behind another, both reported under one name. -/
def namedLetters : Program :=
  ⟨[⟨"S", .sequence (.literal "a")
      (.choice (.errorName "letter" true (.literal "b")) (.errorName "letter" true (.literal "x"))),
    true⟩], ⟨0⟩, by decide⟩

/-- Both parses fail behind the first letter, with what is expected there in other words. -/
theorem namedLetters_reworded :
    namedLetters.unnamed.unnamed = namedLetters.unnamed ∧ ∃ parse parse' events,
      namedLetters.parseFrom 8 ⟨0⟩ ['a', 'c'] = .ok (parse, events) ∧
      namedLetters.unnamed.parseFrom 8 ⟨0⟩ ['a', 'c'] = .ok (parse', events) ∧
      parse'.success = parse.success ∧ parse'.root = parse.root ∧
      parse'.failureOffset = parse.failureOffset ∧
      parse'.messages.map Message.position = parse.messages.map Message.position ∧
      parse.messages.map Message.text = ["Expected letter, found `\"c\"`"] ∧
      parse'.messages.map Message.text =
        ["Expected literal `\"b\"` or literal `\"x\"`, found `\"c\"`"] := by
  have h := unnamed_unnamed namedLetters
  rcases error_names_only_reword h 8 ⟨0⟩ ['a', 'c'] with
    ⟨error, hrun, _⟩ | ⟨parse, parse', events, hrun, hrun', hsuccess, hroot, hoffset, hmessages⟩
  · cases hrun
  · refine ⟨h, parse, parse', events, hrun, hrun', hsuccess, hroot, hoffset, hmessages, ?_, ?_⟩
    · cases hrun
      rfl
    · cases hrun'
      rfl

end Program

end Peg
