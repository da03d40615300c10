import Peg.Proofs.Parse.Evaluation
import Peg.Proofs.Parse.FixedOutput

/-!
# Every evaluation comes to an end

What an evaluation comes to can be derived without any bound on loops and calls: a loop goes on as
long as its body matches and makes progress, and a call runs the body of its rule. Such a derivation
is a finite computation. There is exactly one for every combinator in every state of a parse, it
ends as the run of the combinator does, and it never nests more calls than the limit leaves room
for. So the bounds that the machine sets itself are no bounds in effect.
-/

namespace Peg

open Peg.Text

namespace Step

/-- The step that ends in a given way. -/
def returning (o : Outcome) : Step := fun _ _ => o

/-- How a repetition ends, once its loop has ended that began in state `s`. -/
def LoopOutcome.close (r : LoopOutcome) (min : Nat) (s : ParseState) (node : ParseTree) :
    Outcome :=
  match r.error? with
  | some error => ⟨.halted error, r.state, node⟩
  | none =>
    if r.count < min then ⟨.failed, r.state.restore s.position, node⟩
    else ⟨.matched, r.state, node.splice r.node⟩

/-- A repetition is its loop, closed by the check of the least number of turns. -/
theorem repetition_eq_close (e : Setting) (min : Nat) (max : Option Nat) (body : Step)
    (s : ParseState) (node : ParseTree) :
    repetition e min max body s node =
      (loop max body (byteLength e.input - s.position + 1) 0 s .empty).close min s node := rfl

/-- A loop whose body ends as `R` says runs its body so many times, and then it ends. Nothing but
the body and the maximum ends it. -/
inductive Iterates (R : ParseState → Outcome → Prop) (max : Option Nat) :
    (count : Nat) → ParseState → ParseTree → (runs : Nat) → LoopOutcome → Prop where
  | full {count : Nat} {s : ParseState} {node : ParseTree} : mayContinue max count = false →
      Iterates R max count s node 0 ⟨none, count, s, node⟩
  | halted {count : Nat} {s : ParseState} {node : ParseTree} {r : Outcome} {error : ParseError} :
      mayContinue max count = true → R s r → r.verdict = .halted error →
      Iterates R max count s node 1 ⟨some error, count, r.state, node⟩
  | failed {count : Nat} {s : ParseState} {node : ParseTree} {r : Outcome} :
      mayContinue max count = true → R s r → r.verdict = .failed →
      Iterates R max count s node 1 ⟨none, count, r.state.restore s.position, node⟩
  | idle {count : Nat} {s : ParseState} {node : ParseTree} {r : Outcome} :
      mayContinue max count = true → R s r → r.verdict = .matched →
      r.state.position = s.position →
      Iterates R max count s node 1 ⟨none, count + 1, r.state, node.splice r.node⟩
  | further {count runs : Nat} {s : ParseState} {node : ParseTree} {r : Outcome}
      {out : LoopOutcome} : mayContinue max count = true → R s r → r.verdict = .matched →
      r.state.position ≠ s.position →
      Iterates R max (count + 1) r.state (node.splice r.node) runs out →
      Iterates R max count s node (runs + 1) out

variable {R : ParseState → Outcome → Prop} {max : Option Nat} {count runs : Nat} {s : ParseState}
  {node : ParseTree} {out : LoopOutcome}

/-- A loop that may go on runs its body, and what the body comes to decides how the loop ends or
where it goes on. -/
theorem Iterates.turn (h : Iterates R max count s node runs out)
    (hmore : mayContinue max count = true) : ∃ r, R s r ∧
      ((∃ error, r.verdict = .halted error ∧ runs = 1 ∧
          out = ⟨some error, count, r.state, node⟩) ∨
        (r.verdict = .failed ∧ runs = 1 ∧
          out = ⟨none, count, r.state.restore s.position, node⟩) ∨
        (r.verdict = .matched ∧ r.state.position = s.position ∧ runs = 1 ∧
          out = ⟨none, count + 1, r.state, node.splice r.node⟩) ∨
        (r.verdict = .matched ∧ r.state.position ≠ s.position ∧ ∃ rest, runs = rest + 1 ∧
          Iterates R max (count + 1) r.state (node.splice r.node) rest out)) := by
  cases h with
  | full hfull => simp [hmore] at hfull
  | halted _ hbody hhalt => exact ⟨_, hbody, .inl ⟨_, hhalt, rfl, rfl⟩⟩
  | failed _ hbody hfailed => exact ⟨_, hbody, .inr (.inl ⟨hfailed, rfl, rfl⟩)⟩
  | idle _ hbody hmatched hidle =>
    exact ⟨_, hbody, .inr (.inr (.inl ⟨hmatched, hidle, rfl, rfl⟩))⟩
  | further _ hbody hmatched hmoved hrest =>
    exact ⟨_, hbody, .inr (.inr (.inr ⟨hmatched, hmoved, _, rfl, hrest⟩))⟩

/-- If the body can only end in one way from each state, so can the loop. -/
theorem Iterates.unique {S : ParseState → Outcome → Prop} {runs' : Nat} {out' : LoopOutcome}
    (h : Iterates R max count s node runs out) (h' : Iterates S max count s node runs' out')
    (hunique : ∀ {s o o'}, R s o → S s o' → o = o') : runs' = runs ∧ out' = out := by
  induction h generalizing runs' out' with
  | full hfull =>
    cases h' with
    | full => exact ⟨rfl, rfl⟩
    | halted hmore | failed hmore | idle hmore | further hmore => simp [hfull] at hmore
  | halted hmore hbody hhalt =>
    obtain ⟨r, hbody', hturn⟩ := h'.turn hmore
    obtain rfl := hunique hbody hbody'
    simpa [hhalt] using hturn
  | failed hmore hbody hfailed =>
    obtain ⟨r, hbody', hturn⟩ := h'.turn hmore
    obtain rfl := hunique hbody hbody'
    simpa [hfailed] using hturn
  | idle hmore hbody hmatched hidle =>
    obtain ⟨r, hbody', hturn⟩ := h'.turn hmore
    obtain rfl := hunique hbody hbody'
    simpa [hmatched, hidle] using hturn
  | further hmore hbody hmatched hmoved _ ih =>
    obtain ⟨r, hbody', hturn⟩ := h'.turn hmore
    obtain rfl := hunique hbody hbody'
    obtain ⟨rest, rfl, hrest⟩ : ∃ rest, runs' = rest + 1 ∧
        Iterates S max _ _ _ rest out' := by simpa [hmatched, hmoved] using hturn
    obtain ⟨rfl, rfl⟩ := ih hrest
    exact ⟨rfl, rfl⟩

/-- The number of matches is at most the number of runs of the body. -/
theorem Iterates.count_le (h : Iterates R max count s node runs out) :
    out.count ≤ count + runs := by
  induction h with
  | full => exact Nat.le_refl _
  | halted => exact Nat.le_succ _
  | failed => exact Nat.le_succ _
  | idle => exact Nat.le_refl _
  | further _ _ _ _ _ ih => omega

/-- Every run of the body but the last one moves the cursor forward, and the cursor never leaves the
input. -/
theorem Iterates.runs_le {input : List Char} (h : Iterates R max count s node runs out)
    (hforward : ∀ {s o}, R s o → isBoundary input s.position = true → o.verdict = .matched →
      s.position ≤ o.state.position ∧ isBoundary input o.state.position = true)
    (hs : isBoundary input s.position = true) : runs ≤ byteLength input - s.position + 1 := by
  induction h with
  | full => exact Nat.zero_le _
  | halted => exact Nat.le_add_left _ _
  | failed => exact Nat.le_add_left _ _
  | idle => exact Nat.le_add_left _ _
  | further _ hbody hmatched hmoved _ ih =>
    obtain ⟨hle, hbound⟩ := hforward hbody hs hmatched
    have hinside := le_byteLength_of_isBoundary hbound
    have hrest := ih hbound
    omega

end Step

namespace Interpreter

/-- The evaluation of a combinator ends in the given way, with so many calls nested at most. A right
operand is evaluated only where the left one leads to it, and in a repetition `R` stands for what
the body comes to. -/
inductive Completes (e : Setting) (program : Program) :
    (nesting : Nat) → Combinator → ParseState → ParseTree → Outcome → Prop where
  | literal {nesting : Nat} {text : String} {s : ParseState} {node : ParseTree} :
      Completes e program nesting (.literal text) s node (Step.literal e text s node)
  | pattern {nesting : Nat} {source : String} {times id : Nat} {s : ParseState}
      {node : ParseTree} : e.patterns.indexOf? source times = some id →
      Completes e program nesting (.pattern source times) s node (Step.pattern e id s node)
  | uncompiled {nesting : Nat} {source : String} {times : Nat} {s : ParseState}
      {node : ParseTree} : e.patterns.indexOf? source times = none →
      Completes e program nesting (.pattern source times) s node
        (Step.halt (.uncompiledPattern source) s node)
  | sequence {nesting : Nat} {left right : Combinator} {s : ParseState} {node : ParseTree}
      {l r : Outcome} : Completes e program nesting left s .empty l →
      (l.verdict = .matched → Completes e program nesting right l.state l.node r) →
      Completes e program nesting (.sequence left right) s node
        (Step.sequence (.returning l) (.returning r) s node)
  | choice {nesting : Nat} {left right : Combinator} {s : ParseState} {node : ParseTree}
      {l r : Outcome} : Completes e program nesting left s .empty l →
      (l.verdict = .failed →
        Completes e program nesting right (l.state.restore s.position) .empty r) →
      Completes e program nesting (.choice left right) s node
        (Step.choice (.returning l) (.returning r) s node)
  | repetition {nesting min runs : Nat} {max : Option Nat} {body : Combinator} {s : ParseState}
      {node : ParseTree} {out : Step.LoopOutcome} {R : ParseState → Outcome → Prop} :
      (∀ {t o}, R t o → Completes e program nesting body t .empty o) →
      Step.Iterates R max 0 s .empty runs out →
      Completes e program nesting (.repetition min max body) s node (out.close min s node)
  | not {nesting : Nat} {body : Combinator} {s : ParseState} {node : ParseTree} {r : Outcome} :
      Completes e program nesting body { s with suppress := s.suppress + 1 } .empty r →
      Completes e program nesting (.not body) s node (Step.not (.returning r) s node)
  | drop {nesting : Nat} {body : Combinator} {s : ParseState} {node : ParseTree} {r : Outcome} :
      Completes e program nesting body s .empty r →
      Completes e program nesting (.drop body) s node (Step.drop (.returning r) s node)
  | terminal {nesting : Nat} {decode : Bool} {body : Combinator} {s : ParseState}
      {node : ParseTree} {r : Outcome} : Completes e program nesting body s .empty r →
      Completes e program nesting (.terminal decode body) s node
        (Step.terminal e decode (.returning r) s node)
  | errorName {nesting : Nat} {label : String} {promote : Bool} {body : Combinator}
      {s : ParseState} {node : ParseTree} {r : Outcome} :
      Completes e program nesting body
        { s with labels := ⟨label, promote, s.position⟩ :: s.labels } node r →
      Completes e program nesting (.errorName label promote body) s node
        (Step.errorName label promote (.returning r) s node)
  | call {nesting : Nat} {id : RuleId} {rule : Rule} {s : ParseState} {node : ParseTree}
      {r : Outcome} : program.rule? id = some rule → s.depth < e.limit →
      Completes e program nesting rule.body (s.enterRule rule.name)
        (.ofRule rule.name s.position) r →
      Completes e program (nesting + 1) (.call id) s node
        (Step.call e rule.name rule.capture (.returning r) s node)
  | exhausted {nesting : Nat} {id : RuleId} {s : ParseState} {node : ParseTree} :
      (program.rule? id).isSome = true → e.limit ≤ s.depth →
      Completes e program nesting (.call id) s node
        (Step.halt (.recursionLimitExceeded e.limit) s node)

variable {e : Setting} {program : Program} {nesting : Nat} {c : Combinator} {s : ParseState}
  {node : ParseTree} {o : Outcome}

/-- An evaluation can end in one way only. -/
theorem Completes.unique {nesting' : Nat} {o' : Outcome}
    (h : Completes e program nesting c s node o)
    (h' : Completes e program nesting' c s node o') : o = o' := by
  induction h generalizing nesting' o' with
  | literal =>
    cases h'
    rfl
  | pattern hid =>
    cases h' with
    | pattern hid' =>
      obtain rfl := Option.some.inj (hid.symm.trans hid')
      rfl
    | uncompiled hnone => simp [hid] at hnone
  | uncompiled hnone =>
    cases h' with
    | pattern hid => simp [hnone] at hid
    | uncompiled => rfl
  | @sequence _ _ _ _ _ l _ _ _ ihl ihr =>
    cases h' with
    | sequence hleft hright =>
      obtain rfl := ihl hleft
      cases hl : l.verdict with
      | matched => rw [ihr hl (hright hl)]
      | failed => simp [Step.sequence, Step.returning, hl]
      | halted error => simp [Step.sequence, Step.returning, hl]
  | @choice _ _ _ _ _ l _ _ _ ihl ihr =>
    cases h' with
    | choice hleft hright =>
      obtain rfl := ihl hleft
      cases hl : l.verdict with
      | failed => rw [ihr hl (hright hl)]
      | matched => simp [Step.choice, Step.returning, hl]
      | halted error => simp [Step.choice, Step.returning, hl]
  | repetition _ hloop ih =>
    cases h' with
    | repetition hbody hloop' =>
      obtain ⟨_, rfl⟩ := hloop.unique hloop' fun hrec hrec' => ih hrec (hbody hrec')
      rfl
  | not _ ih =>
    cases h' with
    | not hbody => rw [ih hbody]
  | drop _ ih =>
    cases h' with
    | drop hbody => rw [ih hbody]
  | terminal _ ih =>
    cases h' with
    | terminal hbody => rw [ih hbody]
  | errorName _ ih =>
    cases h' with
    | errorName hbody => rw [ih hbody]
  | call hrule hroom _ ih =>
    cases h' with
    | call hrule' _ hbody =>
      obtain rfl := Option.some.inj (hrule.symm.trans hrule')
      rw [ih hbody]
    | exhausted _ hlimit => exact absurd hroom (Nat.not_lt.mpr hlimit)
  | exhausted _ hlimit =>
    cases h' with
    | call _ hroom => exact absurd hroom (Nat.not_lt.mpr hlimit)
    | exhausted => rfl

/-- The cursor stands at a boundary of the input, and `budget` more calls may be nested. -/
structure Fits (e : Setting) (budget : Nat) (s : ParseState) : Prop where
  boundary : isBoundary e.input s.position = true
  room : e.limit - s.depth = budget

variable {budget : Nat}

/-- A match leaves room for as many calls as before, and it moves the cursor forward. -/
theorem Fits.matched (hc : program.Resolves c) (hs : Fits e budget s)
    (hmatched : (eval e (Interpreter.call e program budget) c s node).verdict = .matched) :
    s.position ≤ (eval e (Interpreter.call e program budget) c s node).state.position ∧
      Fits e budget (eval e (Interpreter.call e program budget) c s node).state := by
  have hfollows := (compositional_follows e program).eval_run budget hc
  have hbalanced := (compositional_balanced e program).eval_run budget hc
  obtain ⟨hle, hbound⟩ := (hfollows.recognizes hs.boundary hmatched).advances hs.boundary
  exact ⟨hle, hbound, by rw [(hbalanced s node).depth, hs.room]⟩

/-- Back where it started, an evaluation leaves room for as many calls as before. -/
theorem Fits.restored (hc : program.Resolves c) (hs : Fits e budget s) :
    Fits e budget ((eval e (Interpreter.call e program budget) c s node).state.restore
      s.position) := by
  have hbalanced := (compositional_balanced e program).eval_run budget hc
  have hframe := (hbalanced s node).trans (ParseState.sameFrame_restore _ s.position)
  exact ⟨by simpa using hs.boundary, by rw [hframe.depth, hs.room]⟩

/-- The loop of a repetition runs its body until the body or the maximum ends it: the bound on its
turns is never met. -/
theorem iterates_loop {R : ParseState → Outcome → Prop} {body : Combinator}
    (hbody : program.Resolves body)
    (hR : ∀ {s}, Fits e budget s →
      R s (eval e (Interpreter.call e program budget) body s .empty))
    (max : Option Nat) {fuel : Nat} (count : Nat) (hs : Fits e budget s) (node : ParseTree)
    (hfuel : byteLength e.input - s.position < fuel) :
    ∃ runs, Step.Iterates R max count s node runs
      (Step.loop max (eval e (Interpreter.call e program budget) body) fuel count s node) := by
  induction fuel generalizing count s node with
  | zero => omega
  | succ fuel ih =>
    -- A turn that goes on has moved the cursor, so less input is ahead of it than the bound allows.
    have hrun := hR hs
    cases hmore : Step.mayContinue max count with
    | false =>
      rw [Step.loop_of_full hmore]
      exact ⟨0, .full hmore⟩
    | true =>
      cases hverdict : (eval e (Interpreter.call e program budget) body s .empty).verdict with
      | halted error =>
        rw [Step.loop_of_halted hmore hverdict]
        exact ⟨1, .halted hmore hrun hverdict⟩
      | failed =>
        rw [Step.loop_of_failed hmore hverdict]
        exact ⟨1, .failed hmore hrun hverdict⟩
      | matched =>
        obtain ⟨hle, hfits⟩ := Fits.matched hbody hs hverdict
        by_cases hidle :
            (eval e (Interpreter.call e program budget) body s .empty).state.position = s.position
        · rw [Step.loop_of_idle hmore hverdict hidle]
          exact ⟨1, .idle hmore hrun hverdict hidle⟩
        · have hinside := le_byteLength_of_isBoundary hfits.boundary
          rw [Step.loop_of_further hmore hverdict hidle]
          obtain ⟨runs, hrest⟩ := ih (count + 1) hfits (node.splice _) (by omega)
          exact ⟨runs + 1, .further hmore hrun hverdict hidle hrest⟩

/-- If the calls of a combinator come to what their runs are, so does the combinator. -/
theorem completes_eval_of_calls (hc : program.Resolves c)
    (hcalls : ∀ id ∈ c.calls, ∀ {s}, Fits e budget s → ∀ node,
      Completes e program budget (.call id) s node (Interpreter.call e program budget id s node))
    (hs : Fits e budget s) (node : ParseTree) :
    Completes e program budget c s node
      (eval e (Interpreter.call e program budget) c s node) := by
  induction c generalizing s node with
  | literal text => exact .literal
  | pattern source times =>
    simp only [eval]
    split
    next id hid => exact .pattern hid
    next hnone => exact .uncompiled hnone
  | sequence left right ihl ihr =>
    rw [Program.resolves_sequence] at hc
    rw [Combinator.calls_sequence, List.forall_mem_append] at hcalls
    exact .sequence (ihl hc.1 hcalls.1 hs .empty) fun hmatched =>
      ihr hc.2 hcalls.2 (Fits.matched hc.1 hs hmatched).2 _
  | choice left right ihl ihr =>
    rw [Program.resolves_choice] at hc
    rw [Combinator.calls_choice, List.forall_mem_append] at hcalls
    exact .choice (ihl hc.1 hcalls.1 hs .empty) fun _ =>
      ihr hc.2 hcalls.2 (Fits.restored hc.1 hs) .empty
  | repetition min max body ih =>
    rw [Program.resolves_repetition] at hc
    rw [Combinator.calls_repetition] at hcalls
    obtain ⟨runs, hloop⟩ := iterates_loop
      (R := fun s o => Completes e program budget body s .empty o) hc
      (fun hs => ih hc hcalls hs .empty) max 0 hs .empty (Nat.lt_succ_self _)
    rw [eval, Step.repetition_eq_close]
    exact .repetition id hloop
  | not body ih =>
    rw [Combinator.calls_not] at hcalls
    have hinside : Fits e budget { s with suppress := s.suppress + 1 } := ⟨hs.boundary, hs.room⟩
    exact .not (ih (Program.resolves_not.mp hc) hcalls hinside .empty)
  | drop body ih =>
    rw [Combinator.calls_drop] at hcalls
    exact .drop (ih (Program.resolves_drop.mp hc) hcalls hs .empty)
  | terminal decode body ih =>
    rw [Combinator.calls_terminal] at hcalls
    exact .terminal (ih (Program.resolves_terminal.mp hc) hcalls hs .empty)
  | errorName label promote body ih =>
    rw [Combinator.calls_errorName] at hcalls
    have hinside : Fits e budget
        { s with labels := ⟨label, promote, s.position⟩ :: s.labels } := ⟨hs.boundary, hs.room⟩
    exact .errorName (ih (Program.resolves_errorName.mp hc) hcalls hinside node)
  | call id => exact hcalls id (by simp) hs node

/-- The call of a rule comes to what its run is. The body of the rule is no part of the call, but
fewer calls may be nested in it. -/
theorem completes_call {id : RuleId} (hid : (program.rule? id).isSome = true)
    (hs : Fits e budget s) (node : ParseTree) :
    Completes e program budget (.call id) s node
      (Interpreter.call e program budget id s node) := by
  -- The induction is on the calls that may still be nested. In each body, it is on the combinator.
  induction budget generalizing id s node with
  | zero => exact .exhausted hid (Nat.sub_eq_zero_iff_le.mp hs.room)
  | succ budget ih =>
    obtain ⟨rule, hrule⟩ := Option.isSome_iff_exists.mp hid
    have hroom := hs.room
    have hinside : Fits e budget (s.enterRule rule.name) := by
      refine ⟨hs.boundary, ?_⟩
      simp only [ParseState.enterRule]
      omega
    have hbody := completes_eval_of_calls (Program.resolves_body hrule)
      (fun id hid _ hs => ih (Program.resolves_body hrule id hid) hs) hinside
      (.ofRule rule.name s.position)
    simp only [Interpreter.call, hrule]
    rw [Step.call_of_lt (by omega)]
    have hcall : Completes e program (budget + 1) (.call id) s node _ :=
      .call hrule (by omega) hbody
    rw [Step.call_of_lt (by omega)] at hcall
    exact hcall

/-- The run of a combinator is what its evaluation comes to. -/
theorem completes_eval (hc : program.Resolves c) (hs : Fits e budget s) (node : ParseTree) :
    Completes e program budget c s node
      (eval e (Interpreter.call e program budget) c s node) :=
  completes_eval_of_calls hc (fun id hid _ hs => completes_call (hc id hid) hs) hs node

/-- Whatever a combinator comes to, a match has moved the cursor forward, to a boundary. -/
theorem Completes.forward (h : Completes e program nesting c s node o)
    (hc : program.Resolves c) (hs : isBoundary e.input s.position = true)
    (hmatched : o.verdict = .matched) :
    s.position ≤ o.state.position ∧ isBoundary e.input o.state.position = true := by
  have hfits : Fits e (e.limit - s.depth) s := ⟨hs, rfl⟩
  obtain rfl := h.unique (completes_eval hc hfits node)
  obtain ⟨hle, hstop⟩ := Fits.matched hc hfits hmatched
  exact ⟨hle, hstop.boundary⟩

/-- In state `t`, the body of a repetition comes to the given end. -/
def BodyEnds (e : Setting) (program : Program) (body : Combinator) (t : ParseState)
    (o : Outcome) : Prop :=
  ∃ nesting, Completes e program nesting body t .empty o

/-- The loop of a repetition that starts in state `s` ends as the machine's does. Its body runs at
most once for each byte ahead of the cursor and once more, so 32 bits can count the matches in an
input of fewer than `2 ^ 32 - 2` bytes. -/
structure LoopEnds (e : Setting) (program : Program) (budget : Nat) (max : Option Nat)
    (body : Combinator) (s : ParseState) : Prop where
  ends : ∃ runs, Step.Iterates (BodyEnds e program body) max 0 s .empty runs
    (Step.loop max (eval e (Interpreter.call e program budget) body)
      (byteLength e.input - s.position + 1) 0 s .empty)
  runs_le : ∀ {runs out}, Step.Iterates (BodyEnds e program body) max 0 s .empty runs out →
    runs ≤ byteLength e.input - s.position + 1
  count_le : ∀ {runs out}, Step.Iterates (BodyEnds e program body) max 0 s .empty runs out →
    out.count ≤ runs
  count_lt : byteLength e.input < UInt32.size - 2 →
    ∀ {runs out}, Step.Iterates (BodyEnds e program body) max 0 s .empty runs out →
      out.count < UInt32.size

/-- The loop of a body that only calls existing rules comes to an end. -/
theorem loop_ends (max : Option Nat) {body : Combinator} (hbody : program.Resolves body)
    (hs : Fits e budget s) : LoopEnds e program budget max body s := by
  have hruns : ∀ {runs out},
      Step.Iterates (BodyEnds e program body) max 0 s .empty runs out →
      runs ≤ byteLength e.input - s.position + 1 := by
    intro runs out h
    exact h.runs_le (fun ⟨_, hturn⟩ ht hmatched => hturn.forward hbody ht hmatched) hs.boundary
  have hcount : ∀ {runs out},
      Step.Iterates (BodyEnds e program body) max 0 s .empty runs out → out.count ≤ runs := by
    intro runs out h
    simpa using h.count_le
  refine ⟨?_, hruns, hcount, fun hshort runs out h => ?_⟩
  · exact iterates_loop hbody (fun hs => ⟨_, completes_eval hbody hs .empty⟩) max 0 hs .empty
      (Nat.lt_succ_self _)
  · have hle := hruns h
    have hle' := hcount h
    omega

/-- An evaluation of a parse: its calls exist, its cursor is at a boundary of the input, and no more
calls are under way than the limit allows. -/
structure Evaluation.Regular (e : Setting) (program : Program) (v : Evaluation) : Prop where
  resolves : program.Resolves v.combinator
  fits : Fits e v.budget v.state
  depth_le : v.state.depth ≤ e.limit

variable {v w : Evaluation}

/-- Every turn of a loop begins where the loop itself could begin. -/
theorem BeginsTurn.regular {max : Option Nat} {body : Combinator} {t : ParseState} {count : Nat}
    (h : BeginsTurn max (eval e (Interpreter.call e program budget) body) s count t)
    (hs : Evaluation.Regular e program ⟨budget, body, s, .empty⟩) :
    Evaluation.Regular e program ⟨budget, body, t, .empty⟩ := by
  induction h with
  | first => exact hs
  | @next count t _ hmatched _ _ ih =>
    obtain ⟨hc, ht, hdepth⟩ := ih
    have hbalanced := (compositional_balanced e program).eval_run budget hc
    exact ⟨hc, (Fits.matched hc ht hmatched).2, (hbalanced t .empty).depth ▸ hdepth⟩

/-- Whatever an evaluation starts is an evaluation of the parse as well. -/
theorem Evaluation.Regular.starts (hstart : Starts e program v w) (h : v.Regular e program) :
    w.Regular e program := by
  obtain ⟨hc, hs, hdepth⟩ := h
  cases hstart with
  | sequenceLeft => exact ⟨(Program.resolves_sequence.mp hc).1, hs, hdepth⟩
  | @sequenceRight budget left right s node l hleft hmatched =>
    obtain ⟨hl, hr⟩ := Program.resolves_sequence.mp hc
    have hbalanced := (compositional_balanced e program).eval_run budget hl
    subst hleft
    exact ⟨hr, (Fits.matched hl hs hmatched).2, (hbalanced s .empty).depth ▸ hdepth⟩
  | choiceLeft => exact ⟨(Program.resolves_choice.mp hc).1, hs, hdepth⟩
  | @choiceRight budget left right s node l hleft hfailed =>
    obtain ⟨hl, hr⟩ := Program.resolves_choice.mp hc
    have hbalanced := (compositional_balanced e program).eval_run budget hl
    have hframe := (hbalanced s .empty).trans (ParseState.sameFrame_restore _ s.position)
    subst hleft
    exact ⟨hr, Fits.restored hl hs, hframe.depth ▸ hdepth⟩
  | turn hturn => exact hturn.regular ⟨Program.resolves_repetition.mp hc, hs, hdepth⟩
  | not => exact ⟨Program.resolves_not.mp hc, ⟨hs.boundary, hs.room⟩, hdepth⟩
  | drop => exact ⟨Program.resolves_drop.mp hc, hs, hdepth⟩
  | terminal => exact ⟨Program.resolves_terminal.mp hc, hs, hdepth⟩
  | errorName => exact ⟨Program.resolves_errorName.mp hc, ⟨hs.boundary, hs.room⟩, hdepth⟩
  | @call budget id rule s node hrule hroom =>
    have hbudget : e.limit - s.depth = budget + 1 := hs.room
    have hless : e.limit - (s.depth + 1) = budget := by omega
    exact ⟨Program.resolves_body hrule, ⟨hs.boundary, hless⟩, hroom⟩

/-- The call of a rule comes to an end, whatever the program, the input and the limit are. What it
comes to can be derived without bounds, in one way only and with as many nested calls as the limit
leaves room for, and it is what the machine answers. On the way, no more calls are ever under way
than the limit allows, and every loop ends in time. -/
theorem call_terminates (e : Setting) (program : Program) {rule : RuleId}
    (hrule : (program.rule? rule).isSome = true) {s : ParseState}
    (hs : isBoundary e.input s.position = true) (hdepth : s.depth ≤ e.limit) (node : ParseTree) :
    Completes e program (e.limit - s.depth) (.call rule) s node
        (Interpreter.call e program (e.limit - s.depth) rule s node) ∧
      (∀ nesting o, Completes e program nesting (.call rule) s node o →
        o = Interpreter.call e program (e.limit - s.depth) rule s node) ∧
      ∀ v, Relation.ReflTransGen (Starts e program) ⟨e.limit - s.depth, .call rule, s, node⟩ v →
        v.state.depth ≤ e.limit ∧
          ∀ min max body, v.combinator = .repetition min max body →
            LoopEnds e program v.budget max body v.state := by
  have hfits : Fits e (e.limit - s.depth) s := ⟨hs, rfl⟩
  have hresolves : program.Resolves (.call rule) := by simpa [Program.Resolves] using hrule
  have hcompletes := completes_call hrule hfits node
  refine ⟨hcompletes, fun _ _ h => h.unique hcompletes, ?_⟩
  intro v hv
  have hregular : v.Regular e program := by
    induction hv with
    | refl => exact ⟨hresolves, hfits, hdepth⟩
    | tail _ hstart ih => exact ih.starts hstart
  refine ⟨hregular.depth_le, ?_⟩
  intro min max body hloop
  have hc := hregular.resolves
  rw [hloop, Program.resolves_repetition] at hc
  exact loop_ends max hc hregular.fits

/-- A rule that calls itself before anything else, and one whose repetition repeats what may match
nothing. -/
def endless : Program :=
  ⟨[⟨"L", .choice (.sequence (.call ⟨0⟩) (.literal "b")) (.literal "b"), true⟩,
    ⟨"N", .repetition 0 none (.repetition 0 none (.literal "a")), true⟩], ⟨0⟩, by decide⟩

/-- How the call of a rule of this program ends at the start of an input, with five nested calls at
most. -/
def endlessOutcome (rule : RuleId) : Outcome :=
  Interpreter.call ⟨"aab".toList, .empty, 5⟩ endless 5 rule .initial .empty

/-- The first rule meets the limit, and the second one matches all that it can. -/
theorem endless_terminates :
    (endless.rule? ⟨0⟩).isSome = true ∧ (endless.rule? ⟨1⟩).isSome = true ∧
      isBoundary "aab".toList ParseState.initial.position = true ∧ ParseState.initial.depth ≤ 5 ∧
      Completes ⟨"aab".toList, .empty, 5⟩ endless 5 (.call ⟨0⟩) .initial .empty
        (endlessOutcome ⟨0⟩) ∧
      (endlessOutcome ⟨0⟩).verdict = .halted (.recursionLimitExceeded 5) ∧
      Completes ⟨"aab".toList, .empty, 5⟩ endless 5 (.call ⟨1⟩) .initial .empty
        (endlessOutcome ⟨1⟩) ∧
      (endlessOutcome ⟨1⟩).Answers 0 (some 2) := by
  have hleft : (endless.rule? ⟨0⟩).isSome = true := rfl
  have hnested : (endless.rule? ⟨1⟩).isSome = true := rfl
  have hstart : isBoundary "aab".toList ParseState.initial.position = true := rfl
  have hdepth : ParseState.initial.depth ≤ 5 := Nat.zero_le 5
  have hmeets := (call_terminates ⟨"aab".toList, .empty, 5⟩ endless hleft hstart hdepth .empty).1
  have hends := (call_terminates ⟨"aab".toList, .empty, 5⟩ endless hnested hstart hdepth .empty).1
  exact ⟨hleft, hnested, hstart, hdepth, hmeets, rfl, hends, rfl, rfl⟩

end Interpreter

end Peg
