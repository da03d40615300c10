import Peg.Proofs.Parse.Kept

/-!
# The path of the cursor

Every movement of the cursor is an event, so the events of a run tell where the cursor has been at
any moment. The furthest of these places is what a message about a failed parse is to point at.
-/

namespace Peg

namespace Event

/-- The place to which an event moves the cursor. Calls of rules and failures move nothing. -/
def target? : Event → Option Nat
  | .success _ stop => some stop
  | .backtrack _ target => some target
  | .enter _ _ | .exit _ _ _ | .failure _ _ => none

/-- The places of the cursor during events, in order, from the start of the input on. -/
def places (events : List Event) : List Nat :=
  0 :: events.filterMap target?

/-- The place of the cursor behind events, the latest of which comes first. -/
def cursor (trace : List Event) : Nat :=
  (trace.filterMap target?).headD 0

/-- The furthest place of the cursor during events, the latest of which comes first. -/
def furthest (trace : List Event) : Nat :=
  (trace.filterMap target?).foldr max 0

/-- The cursor is never beyond its furthest place. -/
theorem cursor_le_furthest (trace : List Event) : cursor trace ≤ furthest trace := by
  unfold cursor furthest
  cases trace.filterMap target? with
  | nil => simp
  | cons p places => exact Nat.le_max_left _ _

/-- No place lies beyond the furthest one. -/
theorem le_furthest {trace : List Event} {p : Nat} (h : p ∈ places trace.reverse) :
    p ≤ furthest trace := by
  simp only [places, List.filterMap_reverse, List.mem_cons, List.mem_reverse] at h
  rcases h with rfl | h
  · exact Nat.zero_le _
  unfold furthest
  generalize trace.filterMap target? = places at h ⊢
  induction places with
  | nil => cases h
  | cons q places ih =>
    simp only [List.foldr_cons]
    rcases List.mem_cons.mp h with rfl | h
    · exact Nat.le_max_left _ _
    · exact Nat.le_trans (ih h) (Nat.le_max_right _ _)

/-- The furthest place is one of the places. -/
theorem furthest_mem (trace : List Event) : furthest trace ∈ places trace.reverse := by
  simp only [places, List.filterMap_reverse, List.mem_cons, List.mem_reverse, furthest]
  induction trace.filterMap target? with
  | nil => exact Or.inl rfl
  | cons q places ih =>
    simp only [List.foldr_cons, List.mem_cons]
    rcases Nat.le_total q (places.foldr max 0) with hle | hle
    · rw [Nat.max_eq_right hle]
      exact ih.imp id Or.inr
    · rw [Nat.max_eq_left hle]
      exact Or.inr (Or.inl rfl)

/-- The last of the places is where the cursor is. -/
theorem getLast?_places (trace : List Event) :
    (places trace.reverse).getLast? = some (cursor trace) := by
  simp only [places, List.filterMap_reverse, cursor]
  cases trace.filterMap target? with
  | nil => rfl
  | cons p places => simp [List.getLast?_cons]

end Event

namespace ParseState

/-- The furthest place of the cursor so far. -/
def furthest (s : ParseState) : Nat :=
  Event.furthest s.trace

/-- The events tell where the cursor is. -/
def Traced (s : ParseState) : Prop :=
  s.position = Event.cursor s.trace

variable {s : ParseState}

/-- Where the events tell the place of the cursor, it is not beyond the furthest one. -/
theorem Traced.position_le (h : s.Traced) : s.position ≤ s.furthest :=
  Nat.le_trans (Nat.le_of_eq h) (Event.cursor_le_furthest _)

/-- Accepting input moves the furthest place if it goes beyond it. -/
@[simp] theorem furthest_accept (s : ParseState) (stop : Nat) :
    (s.accept stop).furthest = max stop s.furthest := rfl

/-- A failure does not move the furthest place. -/
@[simp] theorem furthest_fail (s : ParseState) (natural : String) :
    (s.fail natural).furthest = s.furthest := by
  simp only [fail]
  split
  · rfl
  · rfl

/-- The entry into a rule does not move the furthest place. -/
@[simp] theorem furthest_enterRule (s : ParseState) (name : String) :
    (s.enterRule name).furthest = s.furthest := rfl

/-- The exit from a rule does not move the furthest place. -/
@[simp] theorem furthest_exitRule (s : ParseState) (name : String) (matched : Bool) :
    (s.exitRule name matched).furthest = s.furthest := rfl

/-- Moving the cursor back does not change how far it has been. -/
theorem furthest_restore {target : Nat} (h : target ≤ s.furthest) :
    (s.restore target).furthest = s.furthest := by
  unfold restore
  split
  · rfl
  · exact Nat.max_eq_right h

/-- Accepting input logs where the cursor is. -/
theorem Traced.accept (s : ParseState) (stop : Nat) : (s.accept stop).Traced := rfl

/-- A failure leaves the cursor where it was logged. -/
theorem Traced.fail (h : s.Traced) (natural : String) : (s.fail natural).Traced := by
  simp only [ParseState.fail]
  split
  · exact h
  · exact h

/-- Moving the cursor back logs where it is. -/
theorem Traced.restore (h : s.Traced) (target : Nat) : (s.restore target).Traced := by
  unfold ParseState.restore
  split
  · exact h
  · rfl

/-- Calls of rules, lookaheads and labels do not move the cursor. -/
theorem kept_traced : Kept fun s t => s.Traced → t.Traced where
  refl _ := id
  trans hst htu := htu ∘ hst
  restore _ target hs := hs.restore target
  fail _ natural hs := hs.fail natural
  accept s stop _ := .accept s stop
  not h := h
  errorName _ h := h
  call _ h := h
  exit _ _ h := h

end ParseState

namespace Step

/-- If the events tell where the cursor is, they do so behind the step as well. -/
def Tracks (step : Step) : Prop :=
  ∀ (s : ParseState) (node : ParseTree), s.Traced → (step s node).state.Traced

end Step

namespace Interpreter

/-- Every movement of the cursor is an event, in all programs. -/
theorem compositional_tracks (e : Setting) (program : Program) :
    Compositional e program fun _ step => step.Tracks :=
  compositional_keeps ParseState.kept_traced e program

/-- A parse ends at the last place of its cursor. -/
theorem getLast?_places_of_parse {i : Interpreter} {rule : RuleId} {input : List Char}
    {parse : Parse} {events : List Event} (hrule : (i.program.rule? rule).isSome = true)
    (hparse : i.parseFrom rule input = .ok (parse, events)) :
    (Event.places events).getLast? = some parse.root.stop := by
  obtain ⟨s, hrun, rfl⟩ := parseFrom_eq_ok hparse
  have htraced : (i.outcome rule input).state.Traced :=
    (compositional_tracks (i.setting input) i.program).call_run i.limit hrule .initial .empty rfl
  rw [Event.getLast?_places]
  simp only [runStep] at hrun
  split at hrun
  · cases hrun
  · cases hrun
    exact congrArg some htraced.symm
  · split at hrun
    · cases hrun
      exact congrArg some htraced.symm
    · cases hrun
      have hstop : ((i.outcome rule input).state.fail endOfInput).position =
          (i.outcome rule input).state.position := ParseState.position_fail _ _
      exact congrArg some ((htraced.fail endOfInput).symm.trans hstop)

end Interpreter

end Peg
