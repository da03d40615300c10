import Peg.Proofs.Parse.Runs

/-!
# Calls in the trace

In the events of a parse, the entry into a rule and the exit from it enclose the events of its body.
When a parse halts, the calls that are under way at that moment leave no exit.
-/

namespace Peg

/-- The event is neither the entry into a rule nor the exit from one. -/
def Event.IsPlain : Event → Prop
  | .enter _ _ | .exit _ _ _ => False
  | .success _ _ | .failure _ _ | .backtrack _ _ => True

/-- Every entry into a rule is followed by the events of its body and by the exit from it. -/
inductive Bracketed : List Event → Prop where
  | nil : Bracketed []
  | plain {event : Event} {rest : List Event} :
      event.IsPlain → Bracketed rest → Bracketed (event :: rest)
  | call {rule : String} {start stop : Nat} {matched : Bool} {inner rest : List Event} :
      Bracketed inner → Bracketed rest →
        Bracketed (.enter rule start :: (inner ++ .exit rule stop matched :: rest))

/-- Events as they are while calls are under way: the entries into these have no exits yet. -/
inductive Unfinished : List Event → Prop where
  | done {events : List Event} : Bracketed events → Unfinished events
  | call {rule : String} {start : Nat} {before inner : List Event} :
      Bracketed before → Unfinished inner → Unfinished (before ++ .enter rule start :: inner)

/-- Balanced events followed by balanced events are balanced. -/
theorem Bracketed.append {first second : List Event} (hfirst : Bracketed first)
    (hsecond : Bracketed second) : Bracketed (first ++ second) := by
  induction hfirst with
  | nil => exact hsecond
  | plain hevent _ ih => exact .plain hevent ih
  | call hinner _ _ ih =>
    rw [List.cons_append, List.append_assoc, List.cons_append]
    exact .call hinner ih

/-- Balanced events followed by events whose calls may still be under way are of that second
kind. -/
theorem Unfinished.append {first second : List Event} (hfirst : Bracketed first)
    (hsecond : Unfinished second) : Unfinished (first ++ second) := by
  cases hsecond with
  | done hdone => exact .done (hfirst.append hdone)
  | call hbefore hinner =>
    rw [← List.append_assoc]
    exact .call (hfirst.append hbefore) hinner

/-- What is missing behind the events of an unfinished parse are exits. -/
theorem Unfinished.exists_append {events : List Event} (h : Unfinished events) :
    ∃ more, Bracketed (events ++ more) := by
  induction h with
  | done hdone => exact ⟨[], by rwa [List.append_nil]⟩
  | @call rule _ before inner hbefore _ ih =>
    obtain ⟨more, hmore⟩ := ih
    refine ⟨more ++ [.exit rule 0 false], ?_⟩
    rw [List.append_assoc, List.cons_append, ← List.append_assoc inner]
    exact hbefore.append (.call hmore .nil)

namespace ParseState

/-- All calls that began between the two states came back. -/
def Returned (s t : ParseState) : Prop :=
  ∃ events, Bracketed events ∧ t.trace = events.reverse ++ s.trace

/-- Calls that began between the two states may be under way. -/
def Proceeded (s t : ParseState) : Prop :=
  ∃ events, Unfinished events ∧ t.trace = events.reverse ++ s.trace

section

variable {s t u : ParseState}

/-- No event at all is balanced. -/
theorem Returned.refl (s : ParseState) : s.Returned s :=
  ⟨[], .nil, rfl⟩

/-- Two steps that return to the depth at which they started do so one after the other. -/
theorem Returned.trans (hst : s.Returned t) (htu : t.Returned u) : s.Returned u := by
  obtain ⟨first, hfirst, ht⟩ := hst
  obtain ⟨second, hsecond, hu⟩ := htu
  exact ⟨first ++ second, hfirst.append hsecond, by simp [hu, ht]⟩

/-- A step that returns has also proceeded. -/
theorem Returned.proceeded (h : s.Returned t) : s.Proceeded t := by
  obtain ⟨events, hevents, ht⟩ := h
  exact ⟨events, .done hevents, ht⟩

/-- A step that returns can come before one that is cut short. -/
theorem Returned.trans_proceeded (hst : s.Returned t) (htu : t.Proceeded u) : s.Proceeded u := by
  obtain ⟨first, hfirst, ht⟩ := hst
  obtain ⟨second, hsecond, hu⟩ := htu
  exact ⟨first ++ second, hsecond.append hfirst, by simp [hu, ht]⟩

/-- An event other than a call or a return leaves the depth as it is. -/
theorem returned_emit (s : ParseState) (event : Event) (h : event.IsPlain) :
    s.Returned (s.emit event) :=
  ⟨[event], .plain h .nil, rfl⟩

/-- Moving the cursor back logs at most a plain event. -/
theorem returned_restore (s : ParseState) (target : Nat) : s.Returned (s.restore target) := by
  unfold restore
  split
  · exact .refl s
  · exact returned_emit s (.backtrack s.position target) trivial

/-- A failure logs nothing but plain events. -/
theorem returned_fail (s : ParseState) (natural : String) : s.Returned (s.fail natural) := by
  have hemit := returned_emit s (.failure natural s.position) trivial
  simp only [fail]
  split
  · exact hemit
  · exact hemit

/-- Accepting input logs nothing but plain events. -/
theorem returned_accept (s : ParseState) (stop : Nat) : s.Returned (s.accept stop) :=
  returned_emit s (.success s.position stop) trivial

/-- A step has returned also after the cursor is moved back. -/
theorem Returned.restore (h : s.Returned t) (target : Nat) : s.Returned (t.restore target) :=
  h.trans (returned_restore t target)

/-- The exit of a rule belongs to its entry if all calls in between came back. -/
theorem Returned.exit {name : String} (h : (s.enterRule name).Returned t) (matched : Bool) :
    s.Returned (t.exitRule name matched) := by
  obtain ⟨inner, hinner, ht⟩ := h
  exact ⟨.enter name s.position :: (inner ++ [.exit name t.position matched]), .call hinner .nil,
    by simp [exitRule, enterRule, emit, ht]⟩

/-- A call that is cut short has proceeded behind the event of its start. -/
theorem Proceeded.call {name : String} (h : (s.enterRule name).Proceeded t) : s.Proceeded t := by
  obtain ⟨inner, hinner, ht⟩ := h
  exact ⟨.enter name s.position :: inner, .call .nil hinner, by simp [enterRule, emit, ht]⟩

end

end ParseState

/-- From a state to the outcome, all calls came back unless the parse has halted. -/
structure Outcome.Logged (s : ParseState) (o : Outcome) : Prop where
  proceeded : s.Proceeded o.state
  returned : (∀ error, o.verdict ≠ .halted error) → s.Returned o.state

namespace Step

open ParseState

/-- All calls inside the step come back unless it halts. -/
def Logged (step : Step) : Prop :=
  ∀ (s : ParseState) (node : ParseTree), (step s node).Logged s

section Outcome

variable {s t : ParseState} {node : ParseTree} {verdict : Verdict} {error : ParseError}

/-- A halted step only has to have proceeded. -/
theorem logged_of_proceeded (h : s.Proceeded t) : Outcome.Logged s ⟨.halted error, t, node⟩ :=
  ⟨h, fun hends => absurd rfl (hends error)⟩

/-- A step that has returned may end with any verdict. -/
theorem logged_of_returned (h : s.Returned t) : Outcome.Logged s ⟨verdict, t, node⟩ :=
  ⟨h.proceeded, fun _ => h⟩

end Outcome

variable {left right body : Step}

/-- To halt at once logs nothing. -/
theorem logged_halt (error : ParseError) : (halt error).Logged :=
  fun s _ => logged_of_returned (.refl s)

/-- The call of a rule that does not exist fails at once. -/
theorem logged_failed : Logged fun s node => ⟨.failed, s, node⟩ :=
  fun s _ => logged_of_returned (.refl s)

/-- A literal logs plain events only. -/
theorem logged_literal (e : Setting) (text : String) : (literal e text).Logged := by
  intro s node
  unfold literal
  split
  · exact logged_of_returned (returned_accept s _)
  · exact logged_of_returned (returned_fail s _)

/-- A pattern logs plain events only. -/
theorem logged_pattern (e : Setting) (id : Nat) : (pattern e id).Logged := by
  intro s node
  unfold pattern
  split
  · exact logged_of_returned (.refl s)
  · exact logged_of_returned (returned_accept s _)
  · exact logged_of_returned (returned_fail s _)

/-- A sequence logs what its parts log, in a row. -/
theorem Logged.sequence (hleft : left.Logged) (hright : right.Logged) :
    (Step.sequence left right).Logged := by
  intro s node
  have hl := hleft s .empty
  have hr := hright (left s .empty).state (left s .empty).node
  simp only [Step.sequence]
  split
  · exact logged_of_proceeded hl.proceeded
  next hfailed => exact logged_of_returned ((hl.returned (by simp [hfailed])).restore _)
  next hmatched =>
    have hfirst := hl.returned (by simp [hmatched])
    split
    · exact logged_of_proceeded (hfirst.trans_proceeded hr.proceeded)
    next hfailed =>
      exact logged_of_returned ((hfirst.trans (hr.returned (by simp [hfailed]))).restore _)
    next hmatched =>
      exact logged_of_returned (hfirst.trans (hr.returned (by simp [hmatched])))

/-- A choice logs what its alternatives log, and moves back in between. -/
theorem Logged.choice (hleft : left.Logged) (hright : right.Logged) :
    (Step.choice left right).Logged := by
  intro s node
  have hl := hleft s .empty
  have hr := hright ((left s .empty).state.restore s.position) .empty
  simp only [Step.choice]
  split
  · exact logged_of_proceeded hl.proceeded
  next hmatched => exact logged_of_returned (hl.returned (by simp [hmatched]))
  next hfailed =>
    have hfirst := (hl.returned (by simp [hfailed])).restore s.position
    split
    · exact logged_of_proceeded (hfirst.trans_proceeded hr.proceeded)
    next hmatched =>
      exact logged_of_returned (hfirst.trans (hr.returned (by simp [hmatched])))
    next hfailed =>
      exact logged_of_returned ((hfirst.trans (hr.returned (by simp [hfailed]))).restore _)

/-- A loop whose body does not halt does not halt, and its turns follow each other. -/
theorem Logged.loop (hbody : body.Logged) (max : Option Nat) (fuel count : Nat) (s : ParseState)
    (node : ParseTree) :
    s.Proceeded (Step.loop max body fuel count s node).state ∧
      ((Step.loop max body fuel count s node).error? = none →
        s.Returned (Step.loop max body fuel count s node).state) := by
  induction fuel generalizing count s node with
  | zero => exact ⟨(Returned.refl s).proceeded, fun _ => .refl s⟩
  | succ fuel ih =>
    have hturn := hbody s .empty
    simp only [Step.loop]
    split
    · split
      · exact ⟨hturn.proceeded, fun hends => absurd hends (by simp)⟩
      next hfailed =>
        have hback := (hturn.returned (by simp [hfailed])).restore s.position
        exact ⟨hback.proceeded, fun _ => hback⟩
      next hmatched =>
        have hfirst := hturn.returned (by simp [hmatched])
        split
        · exact ⟨hfirst.proceeded, fun _ => hfirst⟩
        · have hrest := ih (count + 1) (body s .empty).state (node.splice (body s .empty).node)
          exact ⟨hfirst.trans_proceeded hrest.1, fun hends => hfirst.trans (hrest.2 hends)⟩
    · exact ⟨(Returned.refl s).proceeded, fun _ => .refl s⟩

/-- A repetition logs what its turns log. -/
theorem Logged.repetition (hbody : body.Logged) (e : Setting) (min : Nat) (max : Option Nat) :
    (Step.repetition e min max body).Logged := by
  intro s node
  obtain ⟨hproceeded, hreturned⟩ :=
    hbody.loop max (Text.byteLength e.input - s.position + 1) 0 s .empty
  simp only [Step.repetition]
  split
  · exact logged_of_proceeded hproceeded
  next hends =>
    split
    · exact logged_of_returned ((hreturned hends).restore _)
    · exact logged_of_returned (hreturned hends)

/-- The lookaheads under way do not show in the trace. -/
theorem Logged.not (hbody : body.Logged) : (Step.not body).Logged := by
  intro s node
  have hinside := hbody { s with suppress := s.suppress + 1 } .empty
  simp only [Step.not]
  split
  · exact logged_of_proceeded hinside.proceeded
  next hmatched =>
    refine logged_of_returned (.restore ?_ _)
    exact hinside.returned (by simp [hmatched])
  next hfailed =>
    refine logged_of_returned (.restore ?_ _)
    exact hinside.returned (by simp [hfailed])

/-- Dropping output logs nothing of its own. -/
theorem Logged.drop (hbody : body.Logged) : (Step.drop body).Logged :=
  fun s _ => ⟨(hbody s .empty).proceeded, (hbody s .empty).returned⟩

/-- A terminal logs what its body logs. -/
theorem Logged.terminal (hbody : body.Logged) (e : Setting) (decode : Bool) :
    (Step.terminal e decode body).Logged := by
  intro s node
  have hrun := hbody s .empty
  simp only [Step.terminal]
  split
  · exact logged_of_proceeded hrun.proceeded
  next hfailed => exact logged_of_returned (hrun.returned (by simp [hfailed]))
  next hmatched => exact logged_of_returned (hrun.returned (by simp [hmatched]))

/-- A label logs what its body logs. -/
theorem Logged.errorName (hbody : body.Logged) (label : String) (promote : Bool) :
    (Step.errorName label promote body).Logged := by
  intro s node
  have hrun := hbody { s with labels := ⟨label, promote, s.position⟩ :: s.labels } node
  exact ⟨hrun.proceeded, hrun.returned⟩

/-- A call that comes back leaves its exit behind the events of the body. -/
theorem Logged.call (hbody : body.Logged) (e : Setting) (name : String) (capture : Bool) :
    (Step.call e name capture body).Logged := by
  intro s node
  rcases Nat.lt_or_ge s.depth e.limit with hroom | hlimit
  · have hrun := hbody (s.enterRule name) (.ofRule name s.position)
    rw [call_of_lt hroom]
    dsimp only
    split
    · exact logged_of_proceeded hrun.proceeded.call
    next hfailed =>
      exact logged_of_returned (((hrun.returned (by simp [hfailed])).exit false).restore _)
    next hmatched => exact logged_of_returned ((hrun.returned (by simp [hmatched])).exit true)
  · rw [call_of_le hlimit]
    exact logged_of_returned (.refl s)

end Step

namespace Interpreter

/-- The calls inside every operation come back unless it halts, if those inside its operands do. -/
theorem compositional_logged (e : Setting) (program : Program) :
    Compositional e program fun _ step => step.Logged where
  literal := Step.logged_literal e
  pattern _ := Step.logged_pattern e _
  uncompiled _ := Step.logged_halt _
  sequence := Step.Logged.sequence
  choice := Step.Logged.choice
  repetition min max _ _ hbody := hbody.repetition e min max
  not := Step.Logged.not
  drop := Step.Logged.drop
  terminal decode _ _ hbody := hbody.terminal e decode
  errorName label promote _ _ hbody := hbody.errorName label promote
  call _ hbody := hbody.call e _ _
  exhausted _ := Step.logged_halt _

/-- The events of a run, in order, also of one that halts. -/
def events (i : Interpreter) (rule : RuleId) (input : List Char) : List Event :=
  let e := i.setting input
  (runStep e (Interpreter.call e i.program i.limit rule) .initial).2.trace.reverse

variable {i : Interpreter} {rule : RuleId} {input : List Char}

/-- A parse that succeeds returns the events of the run. -/
theorem events_eq_of_parseFrom {parse : Parse} {events : List Event}
    (h : i.parseFrom rule input = .ok (parse, events)) : i.events rule input = events := by
  obtain ⟨s, hrun, rfl⟩ := parseFrom_eq_ok h
  rw [Interpreter.events, hrun]

/-- The run starts with an empty trace, so that all its events are those of the start rule, and of
a failure at the end of the input. -/
theorem logged_runStep {e : Setting} {entry : Step} (hentry : entry.Logged) :
    Unfinished (runStep e entry .initial).2.trace.reverse ∧
      ((runStep e entry .initial).1.isOk = true →
        Bracketed (runStep e entry .initial).2.trace.reverse) := by
  have hunfinished : ∀ {t : ParseState}, ParseState.initial.Proceeded t →
      Unfinished t.trace.reverse := by
    rintro t ⟨events, hevents, ht⟩
    simpa [ht, ParseState.initial] using hevents
  have hbracketed : ∀ {t : ParseState}, ParseState.initial.Returned t →
      Bracketed t.trace.reverse := by
    rintro t ⟨events, hevents, ht⟩
    simpa [ht, ParseState.initial] using hevents
  have hrun := hentry .initial .empty
  have hstart : ParseState.initial.restart = .initial := rfl
  simp only [runStep, hstart]
  split
  · exact ⟨hunfinished hrun.proceeded, nofun⟩
  next hfailed =>
    have hback := hrun.returned (by simp [hfailed])
    exact ⟨hunfinished hback.proceeded, fun _ => hbracketed hback⟩
  next hmatched =>
    have hback := hrun.returned (by simp [hmatched])
    split
    · exact ⟨hunfinished hback.proceeded, fun _ => hbracketed hback⟩
    · have hfail := hback.trans (ParseState.returned_fail _ endOfInput)
      exact ⟨hunfinished hfail.proceeded, fun _ => hbracketed hfail⟩

/-- A rule logs its call, what its body logs, and its return unless the run halts inside. -/
theorem logged_call (e : Setting) (program : Program) (budget : Nat) (rule : RuleId) :
    Step.Logged (Interpreter.call e program budget rule) :=
  (compositional_logged e program).call_run_of_failed (fun _ => Step.logged_failed) budget rule

/-- The events of any run are balanced up to the calls that are under way at its end. -/
theorem unfinished_events (i : Interpreter) (rule : RuleId) (input : List Char) :
    Unfinished (i.events rule input) :=
  (logged_runStep (logged_call (i.setting input) i.program i.limit rule)).1

/-- In a run that ends with a result, all calls come back. -/
theorem bracketed_of_parseFrom {parse : Parse} {events : List Event}
    (h : i.parseFrom rule input = .ok (parse, events)) : Bracketed events := by
  obtain ⟨s, hrun, rfl⟩ := parseFrom_eq_ok h
  have hlogged := logged_runStep (e := i.setting input)
    (logged_call (i.setting input) i.program i.limit rule)
  rw [hrun] at hlogged
  exact hlogged.2 rfl

end Interpreter

end Peg
