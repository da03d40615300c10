import Peg.Grammar.Reduction
import Peg.Proofs.Except

/-!
# Repeat counts

The repeat counts in a grammar are positive and fit into 32 bits. Each one is read from a number
that has to fit, and from then on elements are only put together.
-/

namespace Peg

open Peg.Text

/-- A repeat count is positive and fits into 32 bits. -/
def CountFits (count : Nat) : Prop :=
  0 < count ∧ count < UInt32.size

/-- All repeat counts in the element are positive and fit into 32 bits. -/
def Element.CountsFit : Element → Prop
  | .regex _ _ times => CountFits times
  | .sequence _ left right | .choice _ left right => left.CountsFit ∧ right.CountsFit
  | .optional _ body | .zeroOrMore _ body | .oneOrMore _ body | .not _ body
  | .marked _ _ body => body.CountsFit
  | .text _ _ | .number _ _ | .boolean _ _ | .reference _ _ => True

/-- All repeat counts in the operand are positive and fit into 32 bits. -/
def Operand.CountsFit : Operand → Prop
  | .element e => e.CountsFit
  | .repeatCount count _ => CountFits count
  | .definition d => d.body.CountsFit
  | .marker _ _ | .operator _ _ | .property _ | .option _ => True

/-- All repeat counts in the definitions are positive and fit into 32 bits. -/
def Grammar.CountsFit (g : Grammar) : Prop :=
  ∀ d ∈ g.definitions, d.body.CountsFit

/-- Where the items of the kind satisfy `P`, what is extracted from them satisfies `Q`. -/
def ItemKind.Carries {α β : Type} (kind : ItemKind α β) (P : α → Prop) (Q : β → Prop) : Prop :=
  ∀ item value, P item → kind.extract? item = some value → Q value

namespace ScopedStack

variable {α β : Type} {P : α → Prop} {Q : β → Prop} {s : ScopedStack α} {kind : ItemKind α β}

/-- All items satisfy `P`, also those that are hidden. -/
def All (P : α → Prop) (s : ScopedStack α) : Prop :=
  ∀ entry ∈ s.entries, P entry.item

/-- Nothing is on the empty stack that could violate a property. -/
theorem all_empty : (empty : ScopedStack α).All P := by
  simp [All, empty]

/-- Opening a scope leaves the items as they are. -/
theorem All.enter (h : s.All P) : s.enter.All P := h

/-- A pushed item has to satisfy the property like all others. -/
theorem All.push (h : s.All P) {item : α} (hitem : P item) : (s.push item).All P := by
  intro entry hentry
  rcases List.mem_cons.mp hentry with rfl | hentry
  · exact hitem
  · exact h entry hentry

/-- Pushed items have to satisfy the property like all others. -/
theorem All.pushAll (h : s.All P) {items : List α} (hitems : ∀ item ∈ items, P item) :
    (s.pushAll items).All P := by
  induction items generalizing s with
  | nil => exact h
  | cons item items ih =>
    obtain ⟨hitem, hitems⟩ := List.forall_mem_cons.mp hitems
    exact ih (h.push hitem) hitems

/-- Leaving a scope hands out items that satisfy the property and leaves such items behind. -/
theorem All.exit (h : s.All P) {items : List α} {s' : ScopedStack α}
    (hexit : s.exit = .ok (items, s')) : (∀ item ∈ items, P item) ∧ s'.All P := by
  unfold ScopedStack.exit at hexit
  split at hexit
  · cases hexit
  · cases hexit
    constructor
    · intro item hitem
      obtain ⟨entry, hentry, rfl⟩ := List.mem_map.mp (List.mem_reverse.mp hitem)
      exact h entry ((List.takeWhile_sublist _).mem hentry)
    · intro entry hentry
      exact h entry ((List.dropWhile_sublist _).mem hentry)

/-- What is popped was extracted from an item that satisfies the property. -/
theorem All.tryPop (h : s.All P) (hkind : kind.Carries P Q) {value : β} {s' : ScopedStack α}
    (hpop : s.tryPop kind = some (value, s')) : Q value ∧ s'.All P := by
  unfold ScopedStack.tryPop at hpop
  split at hpop
  · cases hpop
  next entry entries hentries =>
    unfold All at h
    rw [hentries] at h
    obtain ⟨hentry, hrest⟩ := List.forall_mem_cons.mp h
    split at hpop
    · obtain ⟨found, hfound, heq⟩ := Option.map_eq_some_iff.mp hpop
      cases heq
      exact ⟨hkind _ _ hentry hfound, hrest⟩
    · cases hpop

/-- What is popped was extracted from an item that satisfies the property, also where a failure
would be reported. -/
theorem All.pop (h : s.All P) (hkind : kind.Carries P Q) {describe : α → String} {value : β}
    {s' : ScopedStack α} (hpop : s.pop describe kind = .ok (value, s')) : Q value ∧ s'.All P := by
  unfold ScopedStack.pop at hpop
  split at hpop
  · cases hpop
  · split at hpop
    next popped hpopped =>
      cases hpop
      exact h.tryPop hkind hpopped
    · cases hpop

/-- What is popped in a row was extracted from items that satisfy the property. -/
theorem All.popRun (h : s.All P) (hkind : kind.Carries P Q) :
    (∀ value ∈ (s.popRun kind).1, Q value) ∧ (s.popRun kind).2.All P := by
  have hrun : ∀ (visible : Entry α → Bool) (entries : List (Entry α)),
      (∀ entry ∈ entries, P entry.item) →
      (∀ value ∈ (takeRun kind visible entries).1, Q value) ∧
        ∀ entry ∈ (takeRun kind visible entries).2, P entry.item := by
    intro visible entries hentries
    induction entries with
    | nil => simp [takeRun]
    | cons entry entries ih =>
      obtain ⟨hentry, hrest⟩ := List.forall_mem_cons.mp hentries
      rw [takeRun]
      split
      · exact ⟨by simp, hentries⟩
      next value hvalue =>
        split at hvalue
        · exact ⟨List.forall_mem_cons.mpr ⟨hkind _ _ hentry hvalue, (ih hrest).1⟩, (ih hrest).2⟩
        · cases hvalue
  obtain ⟨hvalues, hentries⟩ := hrun s.isVisible s.entries h
  exact ⟨fun value hvalue => hvalues value (List.mem_reverse.mp hvalue), hentries⟩

/-- What is taken off the stack leaves the rest as it is, whatever its kind. -/
theorem All.rest_of_tryPop (h : s.All P) {value : β} {s' : ScopedStack α}
    (hpop : s.tryPop kind = some (value, s')) : s'.All P :=
  (h.tryPop (Q := fun _ => True) (fun _ _ _ _ => trivial) hpop).2

/-- Items that satisfy the property are left behind by a row of items of any kind. -/
theorem All.rest_of_popRun (h : s.All P) (kind : ItemKind α β) : (s.popRun kind).2.All P :=
  (h.popRun (Q := fun _ => True) fun _ _ _ _ => trivial).2

end ScopedStack

namespace Element

/-- A suffix operator does not touch the repeat counts in its body. -/
theorem CountsFit.apply {body : Element} (h : body.CountsFit) (span : Span)
    (operator : SuffixOperator) : (operator.apply span body).CountsFit := by
  cases operator with
  | optional => exact h
  | zeroOrMore => exact h
  | oneOrMore => exact h

end Element

namespace Operand

/-- An element that is taken from the stack has the repeat counts of its operand. -/
theorem carries_elementKind : elementKind.Carries CountsFit Element.CountsFit := by
  intro item e hitem he
  cases item with
  | element e' =>
    cases he
    exact hitem
  | _ => cases he

/-- A repeat count that is taken from the stack is that of its operand. -/
theorem carries_repeatCountKind : repeatCountKind.Carries CountsFit CountFits := by
  intro item count hitem hcount
  cases item with
  | repeatCount count' span =>
    cases hcount
    exact hitem
  | _ => cases hcount

/-- What stands below the root is a definition whose repeat counts fit, or an option. -/
theorem carries_topLevelKind : topLevelKind.Carries CountsFit fun item =>
    ∀ d, item.definition? = some d → d.body.CountsFit := by
  intro item top hitem htop d hd
  cases item with
  | definition d' =>
    cases htop
    cases hd
    exact hitem
  | option a =>
    cases htop
    cases hd
  | _ => cases htop

end Operand

namespace Reduction

variable {α : Type} {s : Operands}

/-- The repeat counts in all operands are positive and fit into 32 bits. -/
abbrev Fitting (s : Operands) : Prop :=
  s.All Operand.CountsFit

/-- A number that was read for 32 bits fits into 32 bits. -/
theorem value32?_lt {text : String} {n : Nat} (h : Decimal.value32? text = some n) :
    n < UInt32.size := by
  obtain ⟨_, hlt⟩ := Option.filter_eq_some_iff.mp h
  exact of_decide_eq_true hlt

/-- A token brings no repeat count with it but the single application of a pattern. -/
theorem ensures_shift (h : Fitting s) (kind : TokenKind) (text : String) (span : Span) :
    Ensures Fitting (shift kind text span s) := by
  unfold shift
  split
  next operand hvalue =>
    have hoperand : operand.CountsFit := by
      cases kind with
      | regex =>
        cases hvalue
        exact (⟨by decide, by decide⟩ : CountFits 1)
      | _ =>
        cases hvalue
        all_goals trivial
    exact ensures_ok (h.push hoperand)
  · split
    · exact ensures_ok h
    · exact ensures_error

/-- What is taken from fitting operands fits, and so does what is left of them. -/
theorem ensures_take {operands : ItemKind Operand α} {Q : α → Prop} (h : Fitting s)
    (hoperands : operands.Carries Operand.CountsFit Q) (kind : NodeKind) (span : Span) :
    Ensures (fun r => Q r.1 ∧ Fitting r.2) (take operands kind span s) := by
  unfold take
  split
  next taken htaken => exact ensures_ok (h.pop hoperands htaken)
  · exact ensures_error

/-- An element that is taken from fitting operands fits. -/
theorem ensures_takeElement (h : Fitting s) (kind : NodeKind) (span : Span) :
    Ensures (fun r => r.1.CountsFit ∧ Fitting r.2) (take Operand.elementKind kind span s) :=
  ensures_take h Operand.carries_elementKind kind span

/-- Taking a name leaves fitting operands behind. -/
theorem ensures_takeName (h : Fitting s) (kind : NodeKind) (span : Span) :
    Ensures (fun r => Fitting r.2) (takeName kind span s) := by
  refine (ensures_takeElement h kind span).bind fun ⟨element, s⟩ ⟨_, hs⟩ => ?_
  dsimp only
  split
  · exact ensures_ok hs
  · exact ensures_error

/-- Markers around an element do not touch the repeat counts in it. -/
theorem countsFit_wrap {body : Element} (h : body.CountsFit) (markers : List (Marker × Span)) :
    (wrap markers body).CountsFit := by
  induction markers with
  | nil => exact h
  | cons marker markers ih => exact ih

/-- An element fits with the markers that stand in front of it. -/
theorem threadMarkers_fits {body : Element} (hbody : body.CountsFit) (h : Fitting s) :
    (threadMarkers body s).1.CountsFit ∧ Fitting (threadMarkers body s).2 :=
  ⟨countsFit_wrap hbody _, h.rest_of_popRun Operand.markerKind⟩

/-- Joining elements keeps the repeat counts in them. -/
theorem countsFit_join {make : Span → Element → Element → Element}
    (hmake : ∀ {span left right}, left.CountsFit → right.CountsFit →
      (make span left right).CountsFit)
    {first : Element} {rest : List Element} (hfirst : first.CountsFit)
    (hrest : ∀ e ∈ rest, e.CountsFit) : (join make first rest).CountsFit := by
  induction rest generalizing first with
  | nil => exact hfirst
  | cons second rest ih =>
    obtain ⟨hsecond, hrest⟩ := List.forall_mem_cons.mp hrest
    exact hmake hfirst (ih hsecond hrest)

/-- A node is replaced by an operand whose repeat counts fit if those of its parts do. -/
def KeepsFit (reduce : Operands → Except Malformed (Operand × Operands)) : Prop :=
  ∀ s, Fitting s → Ensures (fun r => r.1.CountsFit ∧ Fitting r.2) (reduce s)

/-- Sequences and choices fit if all their elements do. -/
theorem keepsFit_reduceJoined (make : Span → Element → Element → Element)
    (hmake : ∀ {span left right}, left.CountsFit → right.CountsFit →
      (make span left right).CountsFit) (kind : NodeKind) (span : Span) :
    KeepsFit (reduceJoined make kind span) := by
  intro s h
  obtain ⟨helements, hs⟩ := h.popRun Operand.carries_elementKind
  unfold reduceJoined
  split
  · exact ensures_error
  next first rest s' hrun =>
    rw [hrun] at helements hs
    obtain ⟨hfirst, hrest⟩ := List.forall_mem_cons.mp helements
    exact ensures_ok ⟨countsFit_join hmake hfirst hrest, hs⟩

/-- An element with a suffix operator fits if it does without. -/
theorem keepsFit_reduceSuffix (span : Span) : KeepsFit (reduceSuffix span) := by
  intro s h
  unfold reduceSuffix
  split
  · exact (ensures_takeElement h .suffix span).bind fun r hr => ensures_ok hr
  next operator place s' hoperator =>
    have hs' : Fitting s' := h.rest_of_tryPop hoperator
    split
    next body s'' hpop =>
      obtain ⟨hbody, hs''⟩ := hs'.pop Operand.carries_elementKind hpop
      exact ensures_ok ⟨hbody.apply span operator, hs''⟩
    · exact ensures_error
    · exact ensures_error

/-- A lookahead fits if its body does. -/
theorem keepsFit_reduceNot (span : Span) : KeepsFit (reduceNot span) :=
  fun _ h => (ensures_takeElement h .not span).bind fun _ hr => ensures_ok hr

/-- A marked element fits if the element does. -/
theorem keepsFit_reduceMarked (span : Span) : KeepsFit (reduceMarked span) :=
  fun _ h => (ensures_takeElement h .marked span).bind fun _ hr =>
    ensures_ok (threadMarkers_fits hr.1 hr.2)

/-- The element that comes last, a pattern, with its repeat count replaced by another one. -/
def takePattern (span : Span) (count? : Option Nat) (s : Operands) :
    Except Malformed (Operand × Operands) := do
  let (body, s) ← take Operand.elementKind .regexTerm span s
  match body with
  | .regex _ pattern times => return (.element (.regex span pattern (count?.getD times)), s)
  | _ => throw (.expectedRegex body.describe body.span)

/-- A pattern is taken with its repeat count or without one. -/
theorem reduceRegexTerm_eq (span : Span) (s : Operands) : reduceRegexTerm span s =
    match s.tryPop Operand.repeatCountKind with
    | some (count, s) => takePattern span (some count) s
    | none => takePattern span none s := by
  unfold reduceRegexTerm
  cases s.tryPop Operand.repeatCountKind with
  | none => rfl
  | some popped => rfl

/-- A pattern fits with a repeat count that fits, or else with its own. -/
theorem ensures_takePattern {s : Operands} (h : Fitting s) (span : Span) {count? : Option Nat}
    (hcount : ∀ count, count? = some count → CountFits count) :
    Ensures (fun r => r.1.CountsFit ∧ Fitting r.2) (takePattern span count? s) := by
  refine (ensures_takeElement h .regexTerm span).bind fun r hr => ?_
  obtain ⟨body, s'⟩ := r
  obtain ⟨hbody, hs'⟩ := hr
  cases body with
  | regex place pattern times =>
    have htimes : CountFits (count?.getD times) := by
      cases count? with
      | none => exact hbody
      | some count => exact hcount count rfl
    exact ensures_ok ⟨htimes, hs'⟩
  | _ => exact ensures_error

/-- A pattern fits with the repeat count behind it. -/
theorem keepsFit_reduceRegexTerm (span : Span) : KeepsFit (reduceRegexTerm span) := by
  intro s h
  rw [reduceRegexTerm_eq]
  cases hpop : s.tryPop Operand.repeatCountKind with
  | none => exact ensures_takePattern h span (by simp)
  | some popped =>
    obtain ⟨hcount, hs'⟩ := h.tryPop Operand.carries_repeatCountKind hpop
    refine ensures_takePattern hs' span ?_
    rintro count ⟨⟩
    exact hcount

/-- A repeat count is read from a number that has to be positive and to fit. -/
theorem keepsFit_reduceRepeatCount (span : Span) : KeepsFit (reduceRepeatCount span) := by
  intro s h
  refine (ensures_takeElement h .repeatCount span).bind fun ⟨e, s'⟩ ⟨_, hs'⟩ => ?_
  cases e with
  | number place digits =>
    dsimp only
    split
    next hcount => exact ensures_ok ⟨⟨Nat.succ_pos _, value32?_lt hcount⟩, hs'⟩
    · exact ensures_error
  | _ => exact ensures_error

/-- There is no repeat count in a property or an option. -/
theorem keepsFit_reduceAttribute (make : Attribute → Operand)
    (hmake : ∀ a, (make a).CountsFit) (kind : NodeKind) (span : Span) :
    KeepsFit (reduceAttribute make kind span) := by
  intro s h
  refine (ensures_takeElement h kind span).bind fun ⟨e, s'⟩ ⟨_, hs'⟩ => ?_
  refine Ensures.bind (P := fun _ => True) (fun _ _ => trivial) fun value _ => ?_
  exact (ensures_takeName hs' kind span).bind fun ⟨name, s'⟩ hs' => ensures_ok ⟨hmake _, hs'⟩

/-- A definition fits if its body does. -/
theorem keepsFit_reduceDefinition (definitionKind : DefinitionKind) (kind : NodeKind)
    (span : Span) : KeepsFit (reduceDefinition definitionKind kind span) := by
  intro s h
  have hs := h.rest_of_popRun Operand.propertyKind
  refine (ensures_takeElement hs kind span).bind fun ⟨body, s'⟩ ⟨hbody, hs'⟩ => ?_
  refine (ensures_takeName hs' kind span).bind fun ⟨name, s'⟩ hs' => ?_
  exact ensures_ok (threadMarkers_fits hbody hs')

/-- Nodes of every kind are replaced by operands that fit. -/
theorem keepsFit_reducer {kind : NodeKind}
    {reduce : Span → Operands → Except Malformed (Operand × Operands)}
    (h : reducer? kind = some reduce) (span : Span) : KeepsFit (reduce span) := by
  cases kind with
  | root | group | marker => cases h
  | sequence =>
    cases h
    exact keepsFit_reduceJoined .sequence (fun hleft hright => ⟨hleft, hright⟩) _ span
  | choice =>
    cases h
    exact keepsFit_reduceJoined .choice (fun hleft hright => ⟨hleft, hright⟩) _ span
  | suffix =>
    cases h
    exact keepsFit_reduceSuffix span
  | not =>
    cases h
    exact keepsFit_reduceNot span
  | marked =>
    cases h
    exact keepsFit_reduceMarked span
  | regexTerm =>
    cases h
    exact keepsFit_reduceRegexTerm span
  | repeatCount =>
    cases h
    exact keepsFit_reduceRepeatCount span
  | property =>
    cases h
    exact keepsFit_reduceAttribute .property (fun _ => trivial) _ span
  | optionDecl =>
    cases h
    exact keepsFit_reduceAttribute .option (fun _ => trivial) _ span
  | definition | tmDefinition =>
    cases h
    exact keepsFit_reduceDefinition _ _ span

/-- What a scope hands out when it is closed fits. -/
theorem ensures_close {s : Operands} (h : Fitting s) (kind : NodeKind) (span : Span) :
    Ensures (fun r => (∀ item ∈ r.1, item.CountsFit) ∧ Fitting r.2) (close kind span s) := by
  unfold close
  split
  next closed hclosed => exact ensures_ok (h.exit hclosed)
  · exact ensures_error

/-- Leaving a node below the root leaves fitting operands on the stack. -/
theorem ensures_leaveInner {s : Operands} (h : Fitting s) (kind : NodeKind) (span : Span) :
    Ensures Fitting (leaveInner kind span s) := by
  unfold leaveInner
  split
  · exact (ensures_close h kind span).bind fun ⟨items, s'⟩ ⟨hitems, hs'⟩ =>
      ensures_ok (hs'.pushAll hitems)
  next reduce hreduce =>
    refine (keepsFit_reducer hreduce span s h).bind fun ⟨operand, s'⟩ ⟨hoperand, hs'⟩ => ?_
    refine (ensures_close hs' kind span).bind fun ⟨leftovers, s'⟩ ⟨_, hs'⟩ => ?_
    exact Ensures.bind (P := fun _ => True) (fun _ _ => trivial) fun _ _ =>
      ensures_ok (hs'.push hoperand)

/-- A grammar has the bodies of the definitions that it is made of. -/
theorem countsFit_ofDefinitions {definitions : List Definition} {options : List Attribute}
    (h : ∀ d ∈ definitions, d.body.CountsFit) :
    Ensures Grammar.CountsFit (Grammar.ofDefinitions definitions options) := by
  unfold Grammar.ofDefinitions
  dsimp only
  split
  · exact ensures_error
  · refine ensures_ok fun d hd => ?_
    obtain ⟨i, hi, rfl⟩ := List.mem_mapIdx.mp hd
    exact h definitions[i] (List.getElem_mem hi)

/-- Leaving the root gives a grammar that fits. -/
theorem ensures_leaveRoot {s : Operands} (h : Fitting s) (span : Span) :
    Ensures (fun r => r.1.CountsFit ∧ Fitting r.2) (leaveRoot span s) := by
  obtain ⟨hitems, hs⟩ := h.popRun Operand.carries_topLevelKind
  refine (ensures_close hs .root span).bind fun ⟨leftovers, s'⟩ ⟨_, hs'⟩ => ?_
  refine Ensures.bind (P := fun _ => True) (fun _ _ => trivial) fun _ _ => ?_
  have hdefinitions : ∀ d ∈ ((s.popRun Operand.topLevelKind).1.filterMap TopLevel.definition?),
      d.body.CountsFit := by
    intro d hd
    obtain ⟨item, hitem, hsome⟩ := List.mem_filterMap.mp hd
    exact hitems item hitem d hsome
  split
  next grammar hgrammar => exact ensures_ok ⟨countsFit_ofDefinitions hdefinitions _ hgrammar, hs'⟩
  · exact ensures_error

/-- The repeat counts on the stack and in the grammar are positive and fit into 32 bits. -/
def State.CountsFit (s : State) : Prop :=
  Fitting s.stack ∧ s.grammar.CountsFit

/-- Leaving any node leaves a state that fits. -/
theorem ensures_leave {s : State} (h : s.CountsFit) (kind : NodeKind) (span : Span) :
    Ensures State.CountsFit (leave kind span s) := by
  unfold leave
  split
  · exact (ensures_leaveRoot h.1 span).bind fun ⟨grammar, stack⟩ ⟨hgrammar, hstack⟩ =>
      ensures_ok ⟨hstack, hgrammar⟩
  · exact (ensures_leaveInner h.1 kind span).bind fun stack hstack => ensures_ok ⟨hstack, h.2⟩

mutual

/-- Walking through a tree leaves a state that fits. -/
theorem ensures_walk (start : Nat) : ∀ (t : SyntaxTree) (s : State), s.CountsFit →
    Ensures State.CountsFit (walk start t s)
  | .token kind text, s, h => by
    rw [walk]
    exact (ensures_shift h.1 kind text _).bind fun stack hstack => ensures_ok ⟨hstack, h.2⟩
  | .node kind children, s, h => by
    rw [walk]
    have hinside : State.CountsFit { s with stack := s.stack.enter } := ⟨h.1.enter, h.2⟩
    exact (ensures_walkAll start children _ hinside).bind fun s hs => ensures_leave hs kind _

/-- Walking through several trees leaves a state that fits. -/
theorem ensures_walkAll (start : Nat) : ∀ (ts : List SyntaxTree) (s : State), s.CountsFit →
    Ensures State.CountsFit (walkAll start ts s)
  | [], s, h => ensures_ok h
  | t :: ts, s, h => by
    rw [walkAll]
    exact (ensures_walk start t s h).bind fun s hs => ensures_walkAll (start + t.width) ts s hs

end

end Reduction

/-- The repeat counts in a grammar that a tree describes are positive and fit into 32 bits. -/
theorem Grammar.countsFit_ofTree (tree : SyntaxTree) :
    Ensures Grammar.CountsFit (Grammar.ofTree tree) := by
  unfold ofTree
  split
  · have hempty : (⟨.empty, .empty⟩ : Reduction.State).CountsFit :=
      ⟨ScopedStack.all_empty, fun _ hd => nomatch hd⟩
    exact (Reduction.ensures_walk 0 tree _ hempty).bind fun s hs => ensures_ok hs.2
  · exact ensures_error

end Peg
