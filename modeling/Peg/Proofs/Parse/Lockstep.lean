import Peg.Proofs.Parse.Runs

/-!
# Runs in lockstep

Two machines that differ at most in their limits carry out the same operations side by side, in
states that correspond to each other. As long as no move of the machine tells such states apart, the
outcomes show the same, and the states behind them correspond again. The first machine may drop out
on the way, by an error for which the second one has no reason.
-/

namespace Peg

/-- A correspondence between states that no move of the machine breaks. -/
structure Correspondence (S : ParseState → ParseState → Prop) : Prop where
  position_eq {s t : ParseState} : S s t → t.position = s.position
  depth_eq {s t : ParseState} : S s t → t.depth = s.depth
  emit {s t : ParseState} : S s t → ∀ event, S (s.emit event) (t.emit event)
  move {s t : ParseState} : S s t → ∀ position,
    S { s with position := position } { t with position := position }
  mute {s t : ParseState} : S s t → ∀ f : Nat → Nat,
    S { s with suppress := f s.suppress } { t with suppress := f t.suppress }
  nest {s t : ParseState} : S s t → ∀ f : Nat → Nat,
    S { s with depth := f s.depth } { t with depth := f t.depth }
  label {s t : ParseState} : S s t → ∀ f : List LabelOverride → List LabelOverride,
    S { s with labels := f s.labels } { t with labels := f t.labels }
  fail {s t : ParseState} : S s t → ∀ natural, S (s.fail natural) (t.fail natural)
  accept {s t : ParseState} : S s t → ∀ stop, S (s.accept stop) (t.accept stop)

/-- Being the same state is a correspondence. -/
theorem correspondence_eq : Correspondence (· = ·) := by
  constructor <;> rintro s _ rfl
  all_goals simp

namespace Correspondence

variable {S : ParseState → ParseState → Prop} {s t : ParseState}

/-- Corresponding states correspond when their cursors go back to the same place. -/
theorem restore (hS : Correspondence S) (h : S s t) {target target' : Nat}
    (htarget : target' = target) : S (s.restore target) (t.restore target') := by
  unfold ParseState.restore
  rw [hS.position_eq h, htarget]
  split
  · exact h
  · exact hS.move (hS.emit h _) target

/-- Corresponding states correspond behind the entry into a rule. -/
theorem enterRule (hS : Correspondence S) (h : S s t) (name : String) :
    S (s.enterRule name) (t.enterRule name) := by
  have hemit := hS.emit h (.enter name s.position)
  unfold ParseState.enterRule
  rw [hS.position_eq h]
  exact hS.nest hemit (· + 1)

/-- Corresponding states correspond behind the exit from a rule. -/
theorem exitRule (hS : Correspondence S) (h : S s t) (name : String) (matched : Bool) :
    S (s.exitRule name matched) (t.exitRule name matched) := by
  have hemit := hS.emit h (.exit name s.position matched)
  unfold ParseState.exitRule
  rw [hS.position_eq h]
  exact hS.nest hemit (· - 1)

end Correspondence

/-- The outcomes show the same, and the states behind them correspond. -/
structure Outcome.Alike (S : ParseState → ParseState → Prop) (o o' : Outcome) : Prop where
  verdict : o'.verdict = o.verdict
  node : o'.node = o.node
  state : S o.state o'.state

/-- The loops end alike, in states that correspond. -/
structure Step.LoopOutcome.Alike (S : ParseState → ParseState → Prop)
    (o o' : Step.LoopOutcome) : Prop where
  error? : o'.error? = o.error?
  count : o'.count = o.count
  node : o'.node = o.node
  state : S o.state o'.state

namespace Step

/-- In corresponding states the steps have outcomes that are alike, unless the first one halts with
an error by which it may drop out. -/
def Lockstep (drops : ParseError → Prop) (S : ParseState → ParseState → Prop)
    (step step' : Step) : Prop :=
  ∀ (s s' : ParseState) (node : ParseTree), S s s' →
    (∃ error, drops error ∧ (step s node).verdict = .halted error) ∨
      (step s node).Alike S (step' s' node)

variable {drops : ParseError → Prop} {S : ParseState → ParseState → Prop} {e : Setting}
  {limit : Nat}

/-- To halt at once is alike in all states. -/
theorem lockstep_halt (error : ParseError) : Lockstep drops S (halt error) (halt error) :=
  fun _ _ _ hs => .inr ⟨rfl, rfl, hs⟩

/-- The call of a rule that does not exist fails at once. -/
theorem lockstep_failed :
    Lockstep drops S (fun s node => ⟨.failed, s, node⟩) (fun s node => ⟨.failed, s, node⟩) :=
  fun _ _ _ hs => .inr ⟨rfl, rfl, hs⟩

/-- The same input is accepted alike in corresponding states. -/
theorem alike_accept (hS : Correspondence S) {s s' : ParseState} (hs : S s s') (stop : Nat)
    (node : ParseTree) :
    (accept e stop s node).Alike S (accept { e with limit := limit } stop s' node) := by
  refine ⟨rfl, ?_, hS.accept hs stop⟩
  simp only [accept, hS.position_eq hs]

/-- A literal is alike in corresponding states. -/
theorem lockstep_literal (hS : Correspondence S) (text : String) :
    Lockstep drops S (literal e text) (literal { e with limit := limit } text) := by
  intro s s' node hs
  right
  unfold literal
  rw [hS.position_eq hs]
  split
  · exact alike_accept hS hs _ node
  · exact ⟨rfl, rfl, hS.fail hs _⟩

/-- A pattern is alike in corresponding states. -/
theorem lockstep_pattern (hS : Correspondence S) (id : Nat) :
    Lockstep drops S (pattern e id) (pattern { e with limit := limit } id) := by
  intro s s' node hs
  right
  unfold pattern
  rw [hS.position_eq hs]
  dsimp only
  split
  · exact ⟨rfl, rfl, hs⟩
  · exact alike_accept hS hs _ node
  · exact ⟨rfl, rfl, hS.fail hs _⟩

variable {left left' right right' body body' : Step}

/-- Sequences are alike in corresponding states if their parts are. -/
theorem Lockstep.sequence (hS : Correspondence S) (hleft : Lockstep drops S left left')
    (hright : Lockstep drops S right right') :
    Lockstep drops S (Step.sequence left right) (Step.sequence left' right') := by
  intro s s' node hs
  rcases hleft s s' .empty hs with ⟨error, hdrop, hhalt⟩ | hl
  · exact .inl ⟨error, hdrop, by simp [Step.sequence, hhalt]⟩
  cases hverdict : (left s .empty).verdict with
  | halted error =>
    simp only [Step.sequence, hl.verdict, hverdict]
    exact .inr ⟨rfl, rfl, hl.state⟩
  | failed =>
    simp only [Step.sequence, hl.verdict, hverdict]
    exact .inr ⟨rfl, rfl, hS.restore hl.state (hS.position_eq hs)⟩
  | matched =>
    rcases hright _ _ (left s .empty).node hl.state with ⟨error, hdrop, hhalt⟩ | hr
    · exact .inl ⟨error, hdrop, by simp [Step.sequence, hverdict, hhalt]⟩
    simp only [Step.sequence, hl.verdict, hverdict, hl.node, hr.verdict, hr.node]
    split
    · exact .inr ⟨rfl, rfl, hr.state⟩
    · exact .inr ⟨rfl, rfl, hS.restore hr.state (hS.position_eq hs)⟩
    · exact .inr ⟨rfl, rfl, hr.state⟩

/-- Choices are alike in corresponding states if their alternatives are. -/
theorem Lockstep.choice (hS : Correspondence S) (hleft : Lockstep drops S left left')
    (hright : Lockstep drops S right right') :
    Lockstep drops S (Step.choice left right) (Step.choice left' right') := by
  intro s s' node hs
  rcases hleft s s' .empty hs with ⟨error, hdrop, hhalt⟩ | hl
  · exact .inl ⟨error, hdrop, by simp [Step.choice, hhalt]⟩
  cases hverdict : (left s .empty).verdict with
  | halted error =>
    simp only [Step.choice, hl.verdict, hverdict]
    exact .inr ⟨rfl, rfl, hl.state⟩
  | matched =>
    simp only [Step.choice, hl.verdict, hverdict, hl.node]
    exact .inr ⟨rfl, rfl, hl.state⟩
  | failed =>
    have hback := hS.restore hl.state (hS.position_eq hs)
    rcases hright _ _ .empty hback with ⟨error, hdrop, hhalt⟩ | hr
    · exact .inl ⟨error, hdrop, by simp [Step.choice, hverdict, hhalt]⟩
    simp only [Step.choice, hl.verdict, hverdict, hr.verdict, hr.node]
    split
    · exact .inr ⟨rfl, rfl, hr.state⟩
    · exact .inr ⟨rfl, rfl, hr.state⟩
    · exact .inr ⟨rfl, rfl, hS.restore hr.state (hS.position_eq hs)⟩

/-- Loops take their turns in lockstep. -/
theorem Lockstep.loop (hS : Correspondence S) (hbody : Lockstep drops S body body')
    (max : Option Nat) (fuel count : Nat) {s s' : ParseState} (node : ParseTree) (hs : S s s') :
    (∃ error, drops error ∧ (Step.loop max body fuel count s node).error? = some error) ∨
      (Step.loop max body fuel count s node).Alike S
        (Step.loop max body' fuel count s' node) := by
  induction fuel generalizing count s s' node with
  | zero => exact .inr ⟨rfl, rfl, rfl, hs⟩
  | succ fuel ih =>
    cases hmore : mayContinue max count with
    | false =>
      rw [loop_of_full hmore, loop_of_full hmore]
      exact .inr ⟨rfl, rfl, rfl, hs⟩
    | true =>
      rcases hbody s s' .empty hs with ⟨error, hdrop, hhalt⟩ | hb
      · rw [loop_of_halted hmore hhalt]
        exact .inl ⟨error, hdrop, rfl⟩
      have hverdict' := hb.verdict
      cases hverdict : (body s .empty).verdict with
      | halted error =>
        rw [loop_of_halted hmore hverdict, loop_of_halted hmore (hverdict'.trans hverdict)]
        exact .inr ⟨rfl, rfl, rfl, hb.state⟩
      | failed =>
        rw [loop_of_failed hmore hverdict, loop_of_failed hmore (hverdict'.trans hverdict)]
        exact .inr ⟨rfl, rfl, rfl, hS.restore hb.state (hS.position_eq hs)⟩
      | matched =>
        have hposition := hS.position_eq hb.state
        by_cases hidle : (body s .empty).state.position = s.position
        · have hidle' : (body' s' .empty).state.position = s'.position := by
            rw [hposition, hidle, hS.position_eq hs]
          rw [loop_of_idle hmore hverdict hidle,
            loop_of_idle hmore (hverdict'.trans hverdict) hidle', hb.node]
          exact .inr ⟨rfl, rfl, rfl, hb.state⟩
        · have hfurther' : (body' s' .empty).state.position ≠ s'.position := by
            rw [hposition, hS.position_eq hs]
            exact hidle
          rw [loop_of_further hmore hverdict hidle,
            loop_of_further hmore (hverdict'.trans hverdict) hfurther', hb.node]
          exact ih (count + 1) _ hb.state

/-- Repetitions are alike in corresponding states if their bodies are. -/
theorem Lockstep.repetition (hS : Correspondence S) (hbody : Lockstep drops S body body')
    (min : Nat) (max : Option Nat) :
    Lockstep drops S (Step.repetition e min max body)
      (Step.repetition { e with limit := limit } min max body') := by
  intro s s' node hs
  rcases hbody.loop hS max (Text.byteLength e.input - s.position + 1) 0 .empty hs with
    ⟨error, hdrop, hhalt⟩ | hloop
  · exact .inl ⟨error, hdrop, by simp [Step.repetition, hhalt]⟩
  right
  simp only [Step.repetition, hS.position_eq hs, hloop.error?, hloop.count, hloop.node]
  split
  · exact ⟨rfl, rfl, hloop.state⟩
  · split
    · exact ⟨rfl, rfl, hS.restore hloop.state rfl⟩
    · exact ⟨rfl, rfl, hloop.state⟩

/-- Lookaheads are alike in corresponding states if their bodies are. -/
theorem Lockstep.not (hS : Correspondence S) (hbody : Lockstep drops S body body') :
    Lockstep drops S (Step.not body) (Step.not body') := by
  intro s s' node hs
  have hinside : S { s with suppress := s.suppress + 1 } { s' with suppress := s'.suppress + 1 } :=
    hS.mute hs (· + 1)
  rcases hbody _ _ .empty hinside with ⟨error, hdrop, hhalt⟩ | hb
  · exact .inl ⟨error, hdrop, by simp [Step.not, hhalt]⟩
  have hafter := hS.mute hb.state (· - 1)
  right
  simp only [Step.not, hb.verdict]
  split
  · exact ⟨rfl, rfl, hafter⟩
  · exact ⟨rfl, rfl, hS.restore hafter (hS.position_eq hs)⟩
  · exact ⟨rfl, rfl, hS.restore hafter (hS.position_eq hs)⟩

/-- Steps without output are alike in corresponding states if their bodies are. -/
theorem Lockstep.drop (hbody : Lockstep drops S body body') :
    Lockstep drops S (Step.drop body) (Step.drop body') := by
  intro s s' node hs
  rcases hbody s s' .empty hs with hdrop | hb
  · exact .inl hdrop
  · exact .inr ⟨hb.verdict, rfl, hb.state⟩

/-- Terminals are alike in corresponding states if their bodies are. -/
theorem Lockstep.terminal (hS : Correspondence S) (hbody : Lockstep drops S body body')
    (decode : Bool) :
    Lockstep drops S (Step.terminal e decode body)
      (Step.terminal { e with limit := limit } decode body') := by
  intro s s' node hs
  rcases hbody s s' .empty hs with ⟨error, hdrop, hhalt⟩ | hb
  · exact .inl ⟨error, hdrop, by simp [Step.terminal, hhalt]⟩
  right
  simp only [Step.terminal, hb.verdict, hS.position_eq hs, hS.position_eq hb.state]
  split
  · exact ⟨rfl, rfl, hb.state⟩
  · exact ⟨rfl, rfl, hb.state⟩
  · exact ⟨rfl, rfl, hb.state⟩

/-- Steps under one label are alike in corresponding states if the bodies are. -/
theorem Lockstep.errorName (hS : Correspondence S) (hbody : Lockstep drops S body body')
    (label : String) (promote : Bool) :
    Lockstep drops S (Step.errorName label promote body) (Step.errorName label promote body') := by
  intro s s' node hs
  have hsame : (⟨label, promote, s'.position⟩ : LabelOverride) = ⟨label, promote, s.position⟩ := by
    rw [hS.position_eq hs]
  rcases hbody _ _ node (hS.label hs (⟨label, promote, s.position⟩ :: ·)) with hdrop | hb
  · exact .inl hdrop
  · right
    simp only [Step.errorName, hsame]
    exact ⟨hb.verdict, hb.node, hS.label hb.state List.tail⟩

/-- Calls go in lockstep if both machines have the same limit, or if the first one has the smaller
limit and may drop out where it meets it. -/
theorem Lockstep.call (hS : Correspondence S) (hbody : Lockstep drops S body body')
    (hlimit : limit = e.limit ∨ e.limit ≤ limit ∧ drops (.recursionLimitExceeded e.limit))
    (name : String) (capture : Bool) :
    Lockstep drops S (Step.call e name capture body)
      (Step.call { e with limit := limit } name capture body') := by
  intro s s' node hs
  have hdepth := hS.depth_eq hs
  have hposition := hS.position_eq hs
  rcases Nat.lt_or_ge s.depth e.limit with hroom | hmet
  · have hroom' : s'.depth < limit := by
      rcases hlimit with rfl | ⟨hle, _⟩
      · omega
      · omega
    rw [call_of_lt hroom, call_of_lt hroom', hposition]
    rcases hbody _ _ (.ofRule name s.position) (hS.enterRule hs name) with
      ⟨error, hdrop, hhalt⟩ | hb
    · exact .inl ⟨error, hdrop, by simp [hhalt]⟩
    right
    dsimp only
    rw [hb.verdict, hb.node]
    split
    · exact ⟨rfl, rfl, hS.nest hb.state (· - 1)⟩
    · exact ⟨rfl, rfl, hS.restore (hS.exitRule hb.state name false) rfl⟩
    · refine ⟨rfl, ?_, hS.exitRule hb.state name true⟩
      simp only [hS.position_eq hb.state]
  · rw [call_of_le hmet]
    rcases hlimit with rfl | ⟨_, hdrop⟩
    · rw [call_of_le (Nat.le_trans hmet (Nat.le_of_eq hdepth.symm))]
      exact .inr ⟨rfl, rfl, hs⟩
    · exact .inl ⟨_, hdrop, rfl⟩

end Step

namespace Interpreter

variable {drops : ParseError → Prop} {S : ParseState → ParseState → Prop}

/-- Combinators run in lockstep if their calls do. -/
theorem lockstep_eval_of_callee (e : Setting) (limit : Nat) (hS : Correspondence S)
    {callee callee' : RuleId → Step}
    (hcallee : ∀ id, Step.Lockstep drops S (callee id) (callee' id)) (c : Combinator) :
    Step.Lockstep drops S (eval e callee c) (eval { e with limit := limit } callee' c) := by
  induction c with
  | literal text => exact Step.lockstep_literal hS text
  | pattern source times =>
    cases hid : e.patterns.indexOf? source times with
    | none =>
      intro s s' node hs
      simp only [eval, hid]
      exact Step.lockstep_halt (.uncompiledPattern source) s s' node hs
    | some id =>
      intro s s' node hs
      simp only [eval, hid]
      exact Step.lockstep_pattern hS id s s' node hs
  | sequence left right ihl ihr => exact ihl.sequence hS ihr
  | choice left right ihl ihr => exact ihl.choice hS ihr
  | repetition min max body ih => exact ih.repetition hS min max
  | not body ih => exact ih.not hS
  | drop body ih => exact ih.drop
  | terminal decode body ih => exact ih.terminal hS decode
  | errorName label promote body ih => exact ih.errorName hS label promote
  | call id => exact hcallee id

/-- The call of a rule does the same on both machines if they allow the same number of nested calls,
or if the first one allows fewer and may drop out where it meets its limit. -/
theorem lockstep_call (e : Setting) (program : Program) (hS : Correspondence S)
    {limit budget budget' : Nat}
    (h : (limit = e.limit ∧ budget' = budget) ∨
      (e.limit ≤ limit ∧ budget ≤ budget') ∧ drops (.recursionLimitExceeded e.limit))
    (id : RuleId) :
    Step.Lockstep drops S (Interpreter.call e program budget id)
      (Interpreter.call { e with limit := limit } program budget' id) := by
  induction budget generalizing budget' id with
  | zero =>
    rcases h with ⟨rfl, rfl⟩ | ⟨_, hdrop⟩
    · exact Step.lockstep_halt (.recursionLimitExceeded e.limit)
    · exact fun _ _ _ _ => .inl ⟨_, hdrop, rfl⟩
  | succ budget ih =>
    obtain ⟨budget', rfl⟩ : ∃ less, budget' = less + 1 := ⟨budget' - 1, by omega⟩
    have hless : (limit = e.limit ∧ budget' = budget) ∨
        (e.limit ≤ limit ∧ budget ≤ budget') ∧ drops (.recursionLimitExceeded e.limit) :=
      h.imp (And.imp_right Nat.succ.inj) (And.imp_left (And.imp_right Nat.le_of_succ_le_succ))
    have hlimit : limit = e.limit ∨
        e.limit ≤ limit ∧ drops (.recursionLimitExceeded e.limit) :=
      h.imp And.left (And.imp_left And.left)
    intro s s' node hs
    simp only [Interpreter.call]
    split
    next rule _ =>
      have hbody := lockstep_eval_of_callee e limit hS (ih hless) rule.body
      exact hbody.call hS hlimit rule.name rule.capture s s' node hs
    · exact Step.lockstep_failed s s' node hs

end Interpreter

/-- What is told about a parse that ended in a state without success. -/
def Parse.ofFailure (input : List Char) (root : ParseTree) (s : ParseState) : Parse :=
  ⟨false, root, [.error (s.failure.describe input)
    ((Text.LineIndex.ofChars input).position s.failure.position)], some s.failure.position⟩

/-- Two parses of an input end alike: what they tell about a failure is told by corresponding
states, and all else is the same. -/
inductive Parse.EndAlike (S : ParseState → ParseState → Prop) (input : List Char) :
    Except ParseError Parse × ParseState → Except ParseError Parse × ParseState → Prop where
  | halted {error : ParseError} {s s' : ParseState} :
      EndAlike S input (.error error, s) (.error error, s')
  | succeeded {root : ParseTree} {s s' : ParseState} : S s s' →
      EndAlike S input (.ok ⟨true, root, [], none⟩, s) (.ok ⟨true, root, [], none⟩, s')
  | failed {root : ParseTree} {s s' : ParseState} : S s s' →
      EndAlike S input (.ok (.ofFailure input root s), s) (.ok (.ofFailure input root s'), s')

/-- Parses that run in lockstep end alike. -/
theorem Step.Lockstep.runStep {drops : ParseError → Prop} {S : ParseState → ParseState → Prop}
    {e : Setting} {limit : Nat} {entry entry' : Step} (hS : Correspondence S)
    (hentry : Lockstep drops S entry entry') {s s' : ParseState} (hs : S s.restart s'.restart) :
    (∃ error, drops error ∧ (Peg.runStep e entry s).1 = .error error) ∨
      Parse.EndAlike S e.input (Peg.runStep e entry s)
        (Peg.runStep { e with limit := limit } entry' s') := by
  rcases hentry _ _ .empty hs with ⟨error, hdrop, hhalt⟩ | ho
  · exact .inl ⟨error, hdrop, by simp [Peg.runStep, hhalt]⟩
  right
  simp only [Peg.runStep, ho.verdict, ho.node, hS.position_eq ho.state]
  split
  · exact .halted
  · exact .failed ho.state
  · split
    · exact .succeeded ho.state
    · exact .failed (hS.fail ho.state endOfInput)

end Peg
