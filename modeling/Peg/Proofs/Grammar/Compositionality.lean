import Peg.Proofs.Except
import Peg.Proofs.Grammar.DirectReading
import Peg.Proofs.Scope

/-!
# Reduction is compositional

Reducing a syntax tree on a stack gives what reading the tree directly gives: the same grammar or
the same first error. A node works on a scope above the rest of the stack, and there it sees the
values of its own parts and nothing else. So a tree below the root, walked on any stack, puts its
values on top and leaves the stack below alone.
-/

namespace Peg

namespace Reduction

open Peg.Text

variable {α : Type} {base : Operands}

/-- What was read from parts, with the parts that remain inside a scope. -/
def inScope (base : Operands) (read : α × Reading.Parts) : α × Operands :=
  (read.1, base.above read.2)

/-- What an element is read from is an operand with an element. -/
theorem faithful_elementKind : Operand.elementKind.Faithful :=
  ItemKind.faithful_ofReading _ _

/-- Taking an element from the current scope is reading one from its parts. -/
theorem take_element (h : base.Leveled) (kind : NodeKind) (span : Span) (parts : Reading.Parts) :
    take Operand.elementKind kind span (base.above parts) =
      (Reading.element kind span parts).map (inScope base) := by
  cases parts with
  | nil =>
    simp only [take, ScopedStack.pop, ScopedStack.top?_above_nil h]
    rfl
  | cons part parts =>
    simp only [take, ScopedStack.pop, ScopedStack.top?_above_cons,
      ScopedStack.tryPop_above_cons faithful_elementKind]
    cases part <;> rfl

/-- A row of items is popped from the current scope as it is read from its parts. -/
theorem popRun_run {kind : ItemKind Operand α} (hkind : kind.Faithful) (h : base.Leveled)
    (parts : Reading.Parts) :
    (base.above parts).popRun kind = inScope base (Reading.run kind parts) :=
  ScopedStack.popRun_above hkind h parts

/-- Taking a name from the current scope is reading one from its parts. -/
theorem takeName_name (h : base.Leveled) (kind : NodeKind) (span : Span) (parts : Reading.Parts) :
    takeName kind span (base.above parts) =
      (Reading.name kind span parts).map (inScope base) := by
  rw [takeName, take_element h]
  refine map_bind_eq_map fun ⟨e, rest⟩ => ?_
  cases e <;> rfl

/-- What a marker is read from is an operand with a marker. -/
theorem faithful_markerKind : Operand.markerKind.Faithful :=
  ItemKind.faithful_ofReading _ _

/-- The markers in front of an element are those at the end of the parts. -/
theorem threadMarkers_run (h : base.Leveled) (body : Element) (parts : Reading.Parts) :
    threadMarkers body (base.above parts) =
      (wrap (Reading.run Operand.markerKind parts).1 body,
        base.above (Reading.run Operand.markerKind parts).2) := by
  rw [threadMarkers, popRun_run faithful_markerKind h]
  rfl

/-- Elements are joined from the right, and each joint covers what it joins. -/
theorem join_eq_foldr (make : Span → Element → Element → Element) (first : Element)
    (rest : List Element) {last : Element} (hlast : (first :: rest).getLast? = some last) :
    join make first rest = (first :: rest).dropLast.foldr
      (fun e joined => make (e.span.cover joined.span) e joined) last := by
  induction rest generalizing first with
  | nil =>
    cases hlast
    rfl
  | cons second rest ih =>
    have hrest := ih second hlast
    rw [join, hrest]
    rfl

/-- A sequence or a choice is reduced to what is read from its parts. -/
theorem reduceJoined_joined (h : base.Leveled) (make : Span → Element → Element → Element)
    (kind : NodeKind) (span : Span) (parts : Reading.Parts) :
    reduceJoined make kind span (base.above parts) =
      (Reading.joined make kind span parts).map (inScope base) := by
  rw [reduceJoined, popRun_run faithful_elementKind h, Reading.joined]
  obtain ⟨elements, rest⟩ := Reading.run Operand.elementKind parts
  cases elements with
  | nil => rfl
  | cons first others =>
    have hlast := List.getLast?_eq_some_getLast (List.cons_ne_nil first others)
    simp only [inScope, hlast, join_eq_foldr make first others hlast]
    rfl

/-- What an operator is read from is an operand with an operator. -/
theorem faithful_operatorKind : Operand.operatorKind.Faithful :=
  ItemKind.faithful_ofReading _ _

/-- An element with a suffix is reduced to what is read from its parts. -/
theorem reduceSuffix_suffix (h : base.Leveled) (span : Span) (parts : Reading.Parts) :
    reduceSuffix span (base.above parts) =
      (Reading.suffix span parts).map (inScope base) := by
  cases parts with
  | nil =>
    rw [reduceSuffix, ScopedStack.tryPop_above_nil h]
    simp only [take_element h]
    exact map_bind_eq_map fun _ => rfl
  | cons part parts =>
    rw [reduceSuffix, ScopedStack.tryPop_above_cons faithful_operatorKind]
    cases part with
    | operator operator place =>
      cases parts with
      | nil =>
        simp only [Operand.operatorKind, ItemKind.ofReading, Option.map_some, ScopedStack.pop,
          ScopedStack.top?_above_nil h]
        rfl
      | cons part parts =>
        simp only [Operand.operatorKind, ItemKind.ofReading, Option.map_some, ScopedStack.pop,
          ScopedStack.top?_above_cons, ScopedStack.tryPop_above_cons faithful_elementKind]
        cases part <;> rfl
    | _ =>
      simp only [Operand.operatorKind, ItemKind.ofReading, Option.map_none, take_element h]
      exact map_bind_eq_map fun _ => rfl

/-- A lookahead is reduced to what is read from its parts. -/
theorem reduceNot_negation (h : base.Leveled) (span : Span) (parts : Reading.Parts) :
    reduceNot span (base.above parts) =
      (Reading.negation span parts).map (inScope base) := by
  rw [reduceNot, take_element h]
  exact map_bind_eq_map fun _ => rfl

/-- A marked element is reduced to what is read from its parts. -/
theorem reduceMarked_marked (h : base.Leveled) (span : Span) (parts : Reading.Parts) :
    reduceMarked span (base.above parts) =
      (Reading.marked span parts).map (inScope base) := by
  rw [reduceMarked, take_element h]
  refine map_bind_eq_map fun ⟨body, rest⟩ => ?_
  simp only [inScope, threadMarkers_run h]
  rfl

/-- What a repeat count is read from is an operand with a repeat count. -/
theorem faithful_repeatCountKind : Operand.repeatCountKind.Faithful :=
  ItemKind.faithful_ofReading _ _

/-- A pattern is reduced to what is read from its parts. -/
theorem reduceRegexTerm_regexTerm (h : base.Leveled) (span : Span) (parts : Reading.Parts) :
    reduceRegexTerm span (base.above parts) =
      (Reading.regexTerm span parts).map (inScope base) := by
  cases parts with
  | nil =>
    rw [reduceRegexTerm, ScopedStack.tryPop_above_nil h]
    simp only [take_element h]
    refine map_bind_eq_map fun result => ?_
    obtain ⟨body, rest⟩ := result
    cases body <;> rfl
  | cons part parts =>
    rw [reduceRegexTerm, ScopedStack.tryPop_above_cons faithful_repeatCountKind]
    cases part with
    | repeatCount times place =>
      simp only [Operand.repeatCountKind, ItemKind.ofReading, Option.map_some, take_element h]
      refine map_bind_eq_map fun result => ?_
      obtain ⟨body, rest⟩ := result
      cases body <;> rfl
    | _ =>
      simp only [Operand.repeatCountKind, ItemKind.ofReading, Option.map_none, take_element h]
      refine map_bind_eq_map fun result => ?_
      obtain ⟨body, rest⟩ := result
      cases body <;> rfl

/-- A repeat count is reduced to what is read from its parts. -/
theorem reduceRepeatCount_repeatCount (h : base.Leveled) (span : Span) (parts : Reading.Parts) :
    reduceRepeatCount span (base.above parts) =
      (Reading.repeatCount span parts).map (inScope base) := by
  rw [reduceRepeatCount, take_element h]
  refine map_bind_eq_map fun ⟨e, rest⟩ => ?_
  cases e with
  | number place digits =>
    simp only [inScope]
    obtain _ | _ | count := Decimal.value32? digits <;> rfl
  | _ => rfl

/-- A property or an option is reduced to what is read from its parts. -/
theorem reduceAttribute_attributed (h : base.Leveled) (make : Attribute → Operand)
    (kind : NodeKind) (span : Span) (parts : Reading.Parts) :
    reduceAttribute make kind span (base.above parts) =
      (Reading.attributed make kind span parts).map (inScope base) := by
  rw [reduceAttribute, take_element h]
  refine map_bind_eq_map fun ⟨e, rest⟩ => ?_
  simp only [inScope]
  cases elementValue e with
  | error cause => rfl
  | ok value =>
    refine Eq.trans (b := takeName kind span (base.above rest) >>= _) rfl ?_
    rw [takeName_name h]
    exact map_bind_eq_map fun _ => rfl

/-- What a property is read from is an operand with a property. -/
theorem faithful_propertyKind : Operand.propertyKind.Faithful :=
  ItemKind.faithful_ofReading _ _

/-- A definition is reduced to what is read from its parts. -/
theorem reduceDefinition_definition (h : base.Leveled) (definitionKind : DefinitionKind)
    (kind : NodeKind) (span : Span) (parts : Reading.Parts) :
    reduceDefinition definitionKind kind span (base.above parts) =
      (Reading.definition definitionKind kind span parts).map (inScope base) := by
  rw [reduceDefinition, popRun_run faithful_propertyKind h]
  simp only [inScope, take_element h]
  refine map_bind_eq_map fun ⟨body, rest⟩ => ?_
  simp only [inScope, takeName_name h]
  refine map_bind_eq_map fun ⟨name, rest⟩ => ?_
  simp only [inScope, threadMarkers_run h]
  rfl

/-- Inside a scope a node is reduced just as its parts are read. -/
def Agrees (base : Operands) (reduce : Span → Operands → Except Malformed (Operand × Operands))
    (read : Span → Reading.Parts → Except Malformed (Operand × Reading.Parts)) : Prop :=
  ∀ span parts, reduce span (base.above parts) = (read span parts).map (inScope base)

/-- The same kinds of nodes are reduced as are read, and each reduction agrees with the reading. -/
theorem reducer?_agrees (h : base.Leveled) (kind : NodeKind) :
    Option.Rel (Agrees base) (reducer? kind) (Reading.reading? kind) := by
  cases kind with
  | root | group | marker => exact .none
  | sequence | choice => exact .some (reduceJoined_joined h _ _)
  | suffix => exact .some (reduceSuffix_suffix h)
  | not => exact .some (reduceNot_negation h)
  | marked => exact .some (reduceMarked_marked h)
  | regexTerm => exact .some (reduceRegexTerm_regexTerm h)
  | repeatCount => exact .some (reduceRepeatCount_repeatCount h)
  | property | optionDecl => exact .some (reduceAttribute_attributed h _ _)
  | definition | tmDefinition => exact .some (reduceDefinition_definition h _ _)

/-- Closing the current scope hands out its parts in the order in which they came. -/
theorem close_above (h : base.Leveled) (kind : NodeKind) (span : Span) (parts : Reading.Parts) :
    close kind span (base.above parts) = .ok (parts.reverse, base) := by
  rw [close, ScopedStack.exit_above h]

/-- Leftovers are rejected just when the parts are not used up. -/
theorem rejectLeftovers_reverse (kind : NodeKind) (span : Span) (parts : Reading.Parts) :
    rejectLeftovers kind span parts.reverse = Reading.usedUp kind span parts := by
  rw [Reading.usedUp, ← List.head?_reverse]
  cases parts.reverse <;> rfl

/-- A node that is left replaces the values of its parts by its own and touches nothing below. -/
theorem leaveInner_above (h : base.Leveled) (kind : NodeKind) (span : Span)
    (parts : Reading.Parts) :
    leaveInner kind span (base.above parts) =
      (Reading.ofNode kind span parts.reverse).map base.pushAll := by
  have hagree := reducer?_agrees h kind
  rw [leaveInner, Reading.ofNode, List.reverse_reverse]
  generalize reducer? kind = reduce?, Reading.reading? kind = read? at hagree
  cases hagree with
  | none =>
    simp only [close_above h]
    rfl
  | some hagree =>
    simp only [hagree span parts]
    refine map_bind_eq_map fun result => ?_
    obtain ⟨value, rest⟩ := result
    simp only [inScope, close_above h, ok_bind, rejectLeftovers_reverse]
    cases Reading.usedUp kind span rest <;> rfl

/-- What a definition or an option is read from is an operand with one. -/
theorem faithful_topLevelKind : Operand.topLevelKind.Faithful := by
  intro item
  cases item <;> rfl

/-- Leaving the root gives the grammar that is read from its parts. -/
theorem leaveRoot_above (h : base.Leveled) (span : Span) (parts : Reading.Parts) :
    leaveRoot span (base.above parts) =
      (Reading.ofRoot span parts.reverse).map fun grammar => (grammar, base) := by
  rw [leaveRoot, popRun_run faithful_topLevelKind h, Reading.ofRoot, List.reverse_reverse]
  obtain ⟨items, rest⟩ := Reading.run Operand.topLevelKind parts
  simp only [inScope, close_above h, ok_bind, rejectLeftovers_reverse]
  cases Reading.usedUp .root span rest with
  | error cause => rfl
  | ok _ =>
    simp only [ok_bind]
    cases Grammar.ofDefinitions (items.filterMap TopLevel.definition?)
      (items.filterMap TopLevel.option?) <;> rfl

/-- A token puts on the stack what it means on its own. -/
theorem shift_ofToken (kind : TokenKind) (text : String) (span : Span) (s : Operands) :
    shift kind text span s = (Reading.ofToken kind text span).map s.pushAll := by
  rw [shift, Reading.ofToken]
  cases tokenValue? kind text span with
  | some value => rfl
  | none =>
    simp only
    split <;> rfl

/-- A node that is not the root is left with its own values above an unchanged stack. -/
theorem leave_above {kind : NodeKind} (hkind : kind ≠ .root) (span : Span) (s : State)
    (hs : s.stack.Leveled) (parts : Reading.Parts) :
    leave kind span { s with stack := s.stack.above parts } =
      (Reading.ofNode kind span parts.reverse).map fun values =>
        { s with stack := s.stack.pushAll values } := by
  have hleave : leave kind span { s with stack := s.stack.above parts } =
      leaveInner kind span (s.stack.above parts) >>= fun stack =>
        .ok { s with stack := stack } := by
    cases kind <;> first | rfl | exact absurd rfl hkind
  rw [hleave, leaveInner_above hs]
  cases Reading.ofNode kind span parts.reverse <;> rfl

mutual

/-- A tree below the root puts its values on the stack, whatever the stack holds. -/
theorem walk_eq_values (start : Nat) : ∀ (t : SyntaxTree), t.RootFree → ∀ (s : State),
    s.stack.Leveled → walk start t s = (Reading.values start t).map fun values =>
      { s with stack := s.stack.pushAll values }
  | .token kind text, _, s, _ => by
    rw [walk, Reading.values, shift_ofToken]
    cases Reading.ofToken kind text ⟨start, start + byteLength text.toList⟩ <;> rfl
  | .node kind children, ht, s, hs => by
    rw [walk_node start kind children ht.2 s hs, Reading.values]
    cases Reading.valuesOfAll start children with
    | error cause => rfl
    | ok values =>
      simp only [ok_bind, leave_above ht.1 _ s hs, List.reverse_reverse]

/-- A node is left when the values of its own parts, and no others, are in its scope. -/
theorem walk_node (start : Nat) (kind : NodeKind) (children : List SyntaxTree)
    (hchildren : SyntaxTree.AllRootFree children) (s : State) (hs : s.stack.Leveled) :
    walk start (.node kind children) s =
      (do
        let values ← Reading.valuesOfAll start children
        leave kind ⟨start, start + SyntaxTree.widthOfAll children⟩
          { s with stack := s.stack.above values.reverse }) := by
  have hinside := walkAll_eq_values start children hchildren
    { s with stack := s.stack.enter } (hs.above [])
  rw [walk, hinside]
  cases Reading.valuesOfAll start children with
  | error cause => rfl
  | ok values =>
    simp only [ScopedStack.enter_eq_above, ScopedStack.pushAll_above, List.append_nil]
    rfl

/-- Trees below the root put their values on the stack in order. -/
theorem walkAll_eq_values (start : Nat) : ∀ (ts : List SyntaxTree), SyntaxTree.AllRootFree ts →
    ∀ (s : State), s.stack.Leveled →
      walkAll start ts s = (Reading.valuesOfAll start ts).map fun values =>
        { s with stack := s.stack.pushAll values }
  | [], _, _, _ => rfl
  | t :: ts, hts, s, hs => by
    rw [walkAll, Reading.valuesOfAll, walk_eq_values start t hts.1 s hs]
    refine map_bind_eq_map fun first => ?_
    rw [walkAll_eq_values (start + t.width) ts hts.2 _ (hs.pushAll first)]
    cases Reading.valuesOfAll (start + t.width) ts with
    | error cause => rfl
    | ok rest =>
      simp only [ok_bind, Except.map, ← ScopedStack.pushAll_append]
      rfl

end

/-- Below the root nothing but definitions and options counts, and nothing is left behind. -/
theorem walk_root {children : List SyntaxTree} (h : SyntaxTree.AllRootFree children) :
    walk 0 (.node .root children) ⟨.empty, .empty⟩ = (do
      let grammar ← Reading.grammar children
      return ⟨.empty, grammar⟩) := by
  rw [walk_node 0 .root children h _ ScopedStack.leveled_empty, Reading.grammar]
  cases Reading.valuesOfAll 0 children with
  | error cause => rfl
  | ok values =>
    simp only [ok_bind, leave, leaveRoot_above ScopedStack.leveled_empty, List.reverse_reverse,
      Nat.zero_add]
    cases Reading.ofRoot ⟨0, SyntaxTree.widthOfAll children⟩ values <;> rfl

/-- Reducing a tree whose only root is outermost gives what reading it directly gives. The scope of
the root is closed at the end, and none is closed that was not open. A node is left with the values
of its own parts in its scope, it depends on nothing else, and all it does to the rest of the stack
is to put its own values on top. -/
theorem reduction_compositional {children : List SyntaxTree}
    (h : SyntaxTree.AllRootFree children) :
    Grammar.ofTree (.node .root children) = Reading.grammar children ∧
    (∀ s, walk 0 (.node .root children) ⟨.empty, .empty⟩ = .ok s → s.stack = .empty) ∧
    (∀ kind span,
      Grammar.ofTree (.node .root children) ≠ .error (.stack .noOpenScope kind span)) ∧
    (∀ (t : SyntaxTree) (start : Nat) (s : State), t.RootFree → s.stack.Leveled →
      walk start t s = (Reading.values start t).map fun values =>
        { s with stack := s.stack.pushAll values }) ∧
    (∀ (kind : NodeKind) (parts : List SyntaxTree) (start : Nat) (s : State),
      SyntaxTree.AllRootFree parts → s.stack.Leveled →
      walk start (.node kind parts) s =
        (do
          let values ← Reading.valuesOfAll start parts
          leave kind ⟨start, start + SyntaxTree.widthOfAll parts⟩
            { s with stack := s.stack.above values.reverse })) ∧
    ∀ (kind : NodeKind) (span : Span) (s : State) (values : List Operand), kind ≠ .root →
      s.stack.Leveled →
      leave kind span { s with stack := s.stack.above values.reverse } =
        (Reading.ofNode kind span values).map fun values =>
          { s with stack := s.stack.pushAll values } := by
  have hwalk := walk_root h
  have hgrammar : Grammar.ofTree (.node .root children) = Reading.grammar children := by
    rw [Grammar.ofTree, hwalk]
    cases Reading.grammar children <;> rfl
  refine ⟨hgrammar, ?_, ?_, ?_, ?_, ?_⟩
  · intro s hs
    rw [hwalk] at hs
    obtain ⟨grammar, _, hresult⟩ := bind_eq_ok_iff.mp hs
    cases hresult
    rfl
  · rw [hgrammar]
    exact Reading.scoped_grammar children
  · intro t start s ht hs
    exact walk_eq_values start t ht s hs
  · intro kind parts start s hparts hs
    exact walk_node start kind parts hparts s hs
  · intro kind span s values hkind hs
    have hleave := leave_above hkind span s hs values.reverse
    rwa [List.reverse_reverse] at hleave

/-- The tree of `@drop A = 'a' A*;`. -/
def droppedA : List SyntaxTree :=
  [.node .definition [.node .marker [.token .kwDrop "@drop"], .token .ident "A",
    .token .equals "=", .node .sequence [.token .string "'a'",
      .node .suffix [.token .ident "A", .token .star "*"]], .token .semicolon ";"]]

/-- A marked sequence with a suffix operator is reduced to what its direct reading gives. -/
theorem droppedA_reduces :
    SyntaxTree.AllRootFree droppedA ∧
    Grammar.ofTree (.node .root droppedA) = Reading.grammar droppedA ∧
    (Reading.grammar droppedA).toOption.map (fun g => g.definitions.map fun d =>
      (d.name, d.body.render)) = some [("A", "(@drop (seq \"a\" (star A)))")] := by
  have h : SyntaxTree.AllRootFree droppedA := by
    simp [droppedA, SyntaxTree.AllRootFree, SyntaxTree.RootFree]
  exact ⟨h, (reduction_compositional h).1, by decide +kernel⟩

end Reduction

end Peg
