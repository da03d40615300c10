import Peg.Proofs.Grammar.NothingLost
import Peg.Proofs.Grammar.Spelling

/-!
# Definitions keep their tokens

Every token in the syntax tree of a definition that says something is found in the definition once,
and in the order of the tree. The values of a part of the tree are spelled by the tokens of the
part, whatever kinds of nodes it is made of.
-/

namespace Peg

open Peg.Text

namespace SyntaxTree

mutual

/-- The tokens in a tree that starts at an offset, as far as they say something. -/
def lexemes (start : Nat) : SyntaxTree → List Lexeme
  | .token kind text =>
    if kind.isSpoken then [⟨kind, text, ⟨start, start + byteLength text.toList⟩⟩] else []
  | .node _ children => lexemesOfAll start children

/-- The tokens in several trees in a row. -/
def lexemesOfAll (start : Nat) : List SyntaxTree → List Lexeme
  | [] => []
  | t :: ts => lexemes start t ++ lexemesOfAll (start + t.width) ts

end

mutual

/-- The names of the properties in a tree: the first token of each. -/
def propertyNames (start : Nat) : SyntaxTree → List String
  | .token _ _ => []
  | .node kind children =>
    (if kind = .property then ((lexemesOfAll start children).head?.map Lexeme.text).toList
      else []) ++ propertyNamesOfAll start children

/-- The names of the properties in several trees in a row. -/
def propertyNamesOfAll (start : Nat) : List SyntaxTree → List String
  | [] => []
  | t :: ts => propertyNames start t ++ propertyNamesOfAll (start + t.width) ts

end

mutual

/-- No part of the tree is a pattern term. -/
def TermFree : SyntaxTree → Prop
  | .token _ _ => True
  | .node kind children => kind ≠ .regexTerm ∧ AllTermFree children

/-- No part of the trees is a pattern term. -/
def AllTermFree : List SyntaxTree → Prop
  | [] => True
  | t :: ts => t.TermFree ∧ AllTermFree ts

end

mutual

/-- No pattern term in the tree is in another one. -/
def TermsApart : SyntaxTree → Prop
  | .token _ _ => True
  | .node kind children => (kind = .regexTerm → AllTermFree children) ∧ AllTermsApart children

/-- No pattern term in the trees is in another one. -/
def AllTermsApart : List SyntaxTree → Prop
  | [] => True
  | t :: ts => t.TermsApart ∧ AllTermsApart ts

end

/-- A part of a tree without roots, without pattern terms inside others, and in which no property
has the name of another one. -/
structure Entry.Orderly (e : Entry) : Prop where
  rootFree : e.tree.RootFree
  termsApart : e.tree.TermsApart
  distinct : (e.tree.propertyNames e.span.start).Nodup

mutual

/-- The parts of a tree that are in no root. -/
def openEntries (depth start : Nat) : SyntaxTree → List Entry
  | .token kind text => [⟨depth, spanFrom (.token kind text) start, .token kind text⟩]
  | .node kind children =>
    if kind = .root then []
    else ⟨depth, spanFrom (.node kind children) start, .node kind children⟩ ::
      openEntriesOfAll (depth + 1) start children

/-- The parts of several trees in a row that are in no root. -/
def openEntriesOfAll (depth start : Nat) : List SyntaxTree → List Entry
  | [] => []
  | t :: ts => openEntries depth start t ++ openEntriesOfAll depth (start + t.width) ts

end

mutual

/-- Without roots, nothing is replaced by blank space. -/
theorem blankRoots_of_rootFree : ∀ t : SyntaxTree, t.RootFree → t.blankRoots = t
  | .token _ _, _ => rfl
  | .node kind children, h => by
    rw [blankRoots, if_neg h.1, blankRootsOfAll_of_allRootFree children h.2]

/-- Nothing is blanked in trees that hold no root. -/
theorem blankRootsOfAll_of_allRootFree : ∀ ts : List SyntaxTree, AllRootFree ts →
    blankRootsOfAll ts = ts
  | [], _ => rfl
  | t :: ts, h => by
    rw [blankRootsOfAll, blankRoots_of_rootFree t h.1, blankRootsOfAll_of_allRootFree ts h.2]

end

mutual

/-- The span of a part of a tree is as long as the text of the part. -/
theorem span_of_mem_entries (depth start : Nat) : ∀ t : SyntaxTree,
    ∀ e ∈ t.entriesFrom depth start, e.span = e.tree.spanFrom e.span.start
  | .token _ _, e, he => by
    obtain rfl := List.mem_singleton.mp he
    rfl
  | .node _ children, e, he => by
    rcases List.mem_cons.mp he with rfl | he
    · rfl
    · exact span_of_mem_entriesOfAll (depth + 1) start children e he

/-- Every entry of a list of trees has the span that its own tree takes up from its start. -/
theorem span_of_mem_entriesOfAll (depth start : Nat) : ∀ ts : List SyntaxTree,
    ∀ e ∈ entriesOfAll depth start ts, e.span = e.tree.spanFrom e.span.start
  | [], _, he => nomatch he
  | t :: ts, e, he => by
    rcases List.mem_append.mp he with he | he
    · exact span_of_mem_entries depth start t e he
    · exact span_of_mem_entriesOfAll depth (start + t.width) ts e he

end

/-- A node that declares nothing stands for no definition. -/
theorem definition?_node_eq_none {kind : NodeKind} (h : kind.isDeclaration = false) (depth : Nat)
    (span : Span) (children : List SyntaxTree) :
    (Entry.mk depth span (.node kind children)).definition? = none := by
  have hentry := (isDeclaration_node depth span kind children).trans h
  rw [Entry.isDeclaration, Bool.or_eq_false_iff] at hentry
  simpa using hentry.1

end SyntaxTree

namespace Reading

open Reduction Operand SyntaxTree

variable {counted : Bool} {kind : NodeKind} {span : Span} {value : Operand}
  {values own : List Operand} {tokens : List Lexeme} {names : List String}

/-- Only the node of a property has a property as its value. -/
theorem property?_of_reading {read : Span → Parts → Except Malformed (Operand × Parts)}
    {parts remaining : Parts} (hread : reading? kind = some read) (hkind : kind ≠ .property)
    (h : read span parts = .ok (value, remaining)) : value.property? = none := by
  cases kind <;> cases hread
  case sequence | choice =>
    obtain ⟨_, _, _, rfl⟩ := joined_eq_ok h
    rfl
  case suffix => rcases suffix_eq_ok h with ⟨_, _, _, _, rfl⟩ | ⟨_, _, rfl⟩ <;> rfl
  case not =>
    obtain ⟨_, _, rfl⟩ := negation_eq_ok h
    rfl
  case marked =>
    obtain ⟨_, _, _, rfl⟩ := marked_eq_ok h
    rfl
  case regexTerm =>
    rcases regexTerm_eq_ok h with ⟨_, _, _, _, _, _, rfl⟩ | ⟨_, _, _, _, rfl⟩ <;> rfl
  case repeatCount =>
    obtain ⟨_, _, _, _, _, rfl⟩ := repeatCount_eq_ok h
    rfl
  case property => exact absurd rfl hkind
  case optionDecl =>
    obtain ⟨_, _, _, _, _, rfl⟩ := attributed_eq_ok h
    rfl
  case definition | tmDefinition =>
    obtain ⟨_, _, _, _, _, rfl⟩ := definition_eq_ok h
    rfl

/-- Values are spelled by tokens, and the properties among them have some of the names, in their
order. -/
structure Conserves (counted : Bool) (tokens : List Lexeme) (names : List String)
    (values : List Operand) : Prop where
  spelled : AllSpelledBy counted values tokens
  named : ((values.filterMap property?).map Attribute.name).Sublist names

/-- Lists of operands that conserve their tokens do so one after the other. -/
theorem Conserves.append {more : List Lexeme} {others : List String} {rest : List Operand}
    (h : Conserves counted tokens names values) (hrest : Conserves counted more others rest) :
    Conserves counted (tokens ++ more) (names ++ others) (values ++ rest) where
  spelled := h.spelled.append hrest.spelled
  named := by
    rw [List.filterMap_append, List.map_append]
    exact h.named.append hrest.named

/-- The value of a node conserves the tokens in the node if it is spelled by them. -/
theorem conserves_own {read : Span → Parts → Except Malformed (Operand × Parts)}
    {parts remaining : Parts} (hread : reading? kind = some read)
    (h : read span parts = .ok (value, remaining)) (hvalue : value.SpelledBy counted tokens) :
    Conserves counted tokens
      ((if kind = .property then (tokens.head?.map Lexeme.text).toList else []) ++ names)
      [value] := by
  refine ⟨hvalue.alone, ?_⟩
  by_cases hkind : kind = .property
  · subst hkind
    cases hread
    obtain ⟨_, a, _, _, _, rfl⟩ := attributed_eq_ok h
    cases hvalue with
    | property ha =>
      rw [if_pos rfl]
      simp [property?, ha.name_text]
  · have hnone := property?_of_reading hread hkind h
    simp [hnone]

mutual

/-- The values of a tree without roots, definitions and options are spelled by its tokens. There is
a count behind a pattern only if there is a pattern term. -/
theorem conserves_values (start : Nat) : ∀ (t : SyntaxTree) {values : List Operand}
    {counted : Bool}, t.RootFree → t.Bare → t.TermsApart → (counted = false → t.TermFree) →
      Reading.values start t = .ok values →
        Conserves counted (t.lexemes start) (t.propertyNames start) values
  | .token kind text, values, counted, _, _, _, _, h => by
    rw [Reading.values] at h
    refine ⟨spelled_ofToken h, ?_⟩
    cases kind <;> cases h <;> exact List.nil_sublist _
  | .node kind children, values, counted, hfree, hbare, hterms, hcounted, h => by
    rw [Reading.values] at h
    obtain ⟨inner, hinner, hown⟩ := bind_eq_ok_iff.mp h
    by_cases hterm : kind = .regexTerm
    · -- The pattern has no count yet, since there is no pattern term inside.
      have hinside : Conserves false _ _ inner := conserves_valuesOfAll start children hfree.2
        hbare.2 hterms.2 (fun _ => hterms.1 hterm) hinner
      obtain rfl : counted = true := by
        cases counted with
        | false => exact absurd hterm (hcounted rfl).1
        | true => rfl
      subst hterm
      obtain ⟨value, rfl, hvalue⟩ := ofNode_eq_ok rfl hown
      exact conserves_own rfl hvalue (spelled_regexTerm hvalue hinside.spelled)
    · have hinside := conserves_valuesOfAll start children hfree.2 hbare.2 hterms.2
        (fun h => (hcounted h).2) hinner
      cases hkind : kind.handsOn with
      | true =>
        rw [ofNode_of_handsOn hkind] at hown
        cases hown
        exact ⟨hinside.spelled, List.sublist_append_of_sublist_right hinside.named⟩
      | false =>
        obtain ⟨read, hread⟩ := exists_reading_of_handsOn hkind
        obtain ⟨value, rfl, hvalue⟩ := ofNode_eq_ok hread hown
        exact conserves_own hread hvalue
          (spelled_reading hread hbare.1 hterm hvalue hinside.spelled)

/-- A list of trees without roots conserves its tokens, as each of its trees does. -/
theorem conserves_valuesOfAll (start : Nat) : ∀ (ts : List SyntaxTree) {values : List Operand}
    {counted : Bool}, AllRootFree ts → AllBare ts → AllTermsApart ts →
      (counted = false → AllTermFree ts) → valuesOfAll start ts = .ok values →
        Conserves counted (lexemesOfAll start ts) (propertyNamesOfAll start ts) values
  | [], values, counted, _, _, _, _, h => by
    cases h
    exact ⟨.nil, List.nil_sublist _⟩
  | t :: ts, values, counted, hfree, hbare, hterms, hcounted, h => by
    rw [valuesOfAll] at h
    obtain ⟨first, hfirst, h⟩ := bind_eq_ok_iff.mp h
    obtain ⟨rest, hrest, h⟩ := bind_eq_ok_iff.mp h
    cases h
    have hhead := conserves_values start t hfree.1 hbare.1 hterms.1
      (fun h => (hcounted h).1) hfirst
    exact hhead.append (conserves_valuesOfAll (start + t.width) ts hfree.2 hbare.2 hterms.2
      (fun h => (hcounted h).2) hrest)

end

/-- The value of the node of a definition is a definition that is spelled by the tokens in the
node. -/
theorem spelled_node {definitionKind : DefinitionKind} {start : Nat} {children : List SyntaxTree}
    (hread : reading? kind = some (definition definitionKind kind))
    (hfree : (SyntaxTree.node kind children).RootFree) (hterms : AllTermsApart children)
    (hdistinct : (propertyNamesOfAll start children).Nodup)
    (h : Reading.values start (.node kind children) = .ok values) :
    ∃ d, values = [.definition d] ∧ d.kind = definitionKind ∧
      d.span = (SyntaxTree.node kind children).spanFrom start ∧
      d.SpelledBy (lexemesOfAll start children) := by
  have hbare : AllBare children := by
    have hopen := (accounts_of_values 0 start _ hfree h).2
    exact hopen.2 (by cases kind <;> first | rfl | cases hread)
  rw [Reading.values] at h
  obtain ⟨inner, hinner, hown⟩ := bind_eq_ok_iff.mp h
  have hinside : Conserves true _ _ inner :=
    conserves_valuesOfAll start children hfree.2 hbare hterms (fun h => nomatch h) hinner
  obtain ⟨value, rfl, hvalue⟩ := ofNode_eq_ok hread hown
  obtain ⟨d, hkind, hspan, rfl, hspelled⟩ :=
    spelled_definition hvalue hinside.spelled (hinside.named.nodup hdistinct)
  exact ⟨d, rfl, hkind, hspan, hspelled⟩

/-- The same for a part of a tree that stands for a definition. -/
theorem spelled_entry {e : Entry} {definitionKind : DefinitionKind}
    (hdefinition : e.definition? = some (definitionKind, span))
    (hspan : e.span = e.tree.spanFrom e.span.start) (h : e.Orderly)
    (hvalues : Reading.values e.span.start e.tree = .ok values) :
    ∃ d, values = [.definition d] ∧ d.kind = definitionKind ∧ d.span = span ∧
      d.SpelledBy (e.tree.lexemes e.span.start) := by
  obtain ⟨depth, place, tree⟩ := e
  dsimp only at hspan hvalues ⊢
  cases tree with
  | token => cases hdefinition
  | node kind children =>
    obtain ⟨hfree, hterms, hdistinct⟩ := h
    dsimp only [propertyNames] at hdistinct
    cases kind <;> cases hdefinition
    all_goals
      rw [if_neg (by decide), List.nil_append] at hdistinct
      rw [hspan]
      exact spelled_node rfl hfree hterms.2 hdistinct hvalues

/-- A definition of the grammar is the one that a part of the tree stands for. If the part is
orderly, the definition is spelled by the tokens of the part. -/
def Renders (e : Entry) (d : Definition) : Prop :=
  e.definition? = some (d.kind, d.span) ∧
    (e.Orderly → d.SpelledBy (e.tree.lexemes e.span.start))

/-- A node that has a value of its own has a definition as its value just if it stands for one. -/
theorem renders_own {read : Span → Parts → Except Malformed (Operand × Parts)} {start : Nat}
    {children : List SyntaxTree} (hread : reading? kind = some read)
    (h : read ((SyntaxTree.node kind children).spanFrom start) values.reverse = .ok (value, []))
    (hblank : Reading.values start (SyntaxTree.node kind children).blankRoots = .ok [value])
    (depth : Nat) :
    List.Forall₂ Renders
      ([⟨depth, (SyntaxTree.node kind children).spanFrom start, .node kind children⟩].filter
        fun e => e.definition?.isSome)
      ([value].filterMap Operand.definition?) := by
  cases hdeclares : kind.isDeclaration with
  | false =>
    have hvalue : ∀ o ∈ [value], o.isDeclaration = false := by
      simpa [hdeclares] using (readFrom_reading hread h).isDeclaration_eq
    rw [(Operand.forall_isDeclaration_eq_false_iff.mp hvalue).1]
    simp [definition?_node_eq_none hdeclares]
  | true =>
    have hrenders {d : Definition}
        (hdefinition : (Entry.mk depth ((SyntaxTree.node kind children).spanFrom start)
          (.node kind children)).definition? = some (d.kind, d.span))
        (hd : value = .definition d) :
        Renders ⟨depth, (SyntaxTree.node kind children).spanFrom start, .node kind children⟩ d := by
      refine ⟨hdefinition, fun horderly => ?_⟩
      rw [blankRoots_of_rootFree _ horderly.rootFree] at hblank
      obtain ⟨d', hd', _, _, hspelled⟩ := spelled_entry hdefinition rfl horderly hblank
      cases hd.symm.trans (List.singleton_inj.mp hd')
      exact hspelled
    cases kind <;> cases hdeclares <;> cases hread
    · obtain ⟨_, _, _, _, _, rfl⟩ := attributed_eq_ok h
      exact .nil
    · obtain ⟨_, _, _, _, _, rfl⟩ := definition_eq_ok h
      exact .cons (hrenders rfl rfl) .nil
    · obtain ⟨_, _, _, _, _, rfl⟩ := definition_eq_ok h
      exact .cons (hrenders rfl rfl) .nil

mutual

/-- The definitions among the values of a tree with blank space in place of its roots are those that
the parts of the tree outside roots stand for, in the same order. -/
theorem renders_values (depth start : Nat) : ∀ (t : SyntaxTree) {values : List Operand},
    Reading.values start t.blankRoots = .ok values →
      List.Forall₂ Renders ((t.openEntries depth start).filter fun e => e.definition?.isSome)
        (values.filterMap Operand.definition?)
  | .token kind text, values, h => by
    rw [blankRoots, Reading.values] at h
    cases kind <;> cases h <;> exact .nil
  | .node kind children, values, h => by
    have hblank := h
    rw [blankRoots] at h
    rw [openEntries]
    by_cases hroot : kind = .root
    · rw [if_pos hroot] at h ⊢
      cases h
      exact .nil
    · rw [if_neg hroot, Reading.values] at h
      obtain ⟨inner, hinner, hown⟩ := bind_eq_ok_iff.mp h
      rw [widthOfAll_blankRootsOfAll] at hown
      have hinside := renders_valuesOfAll (depth + 1) start children hinner
      rw [if_neg hroot, ← List.singleton_append, List.filter_append]
      cases hkind : kind.handsOn with
      | true =>
        have hentry := definition?_node_eq_none (isDeclaration_of_handsOn hkind)
        rw [ofNode_of_handsOn hkind] at hown
        cases hown
        simpa [hentry] using hinside
      | false =>
        obtain ⟨read, hread⟩ := exists_reading_of_handsOn hkind
        obtain ⟨value, rfl, hvalue⟩ := ofNode_eq_ok hread hown
        -- All values of the parts were used for the one value, so none of them is a definition.
        have hdeclared : ∀ o ∈ inner, o.isDeclaration = false := by
          simpa [declared] using (readFrom_reading hread hvalue).declared_eq
        rw [(Operand.forall_isDeclaration_eq_false_iff.mp hdeclared).1,
          List.forall₂_nil_right_iff] at hinside
        rw [hinside, List.append_nil]
        exact renders_own hread hvalue hblank depth

/-- The definitions that a list of trees reduces to render the definition entries that are open in
it, in order. -/
theorem renders_valuesOfAll (depth start : Nat) : ∀ (ts : List SyntaxTree) {values : List Operand},
    valuesOfAll start (blankRootsOfAll ts) = .ok values →
      List.Forall₂ Renders ((openEntriesOfAll depth start ts).filter fun e => e.definition?.isSome)
        (values.filterMap Operand.definition?)
  | [], values, h => by
    cases h
    exact .nil
  | t :: ts, values, h => by
    rw [blankRootsOfAll, valuesOfAll] at h
    obtain ⟨first, hfirst, h⟩ := bind_eq_ok_iff.mp h
    obtain ⟨rest, hrest, h⟩ := bind_eq_ok_iff.mp h
    cases h
    rw [width_blankRoots] at hrest
    rw [openEntriesOfAll, List.filter_append, List.filterMap_append]
    exact List.rel_append (renders_values depth start t hfirst)
      (renders_valuesOfAll depth (start + t.width) ts hrest)

end

end Reading

namespace Reduction

open SyntaxTree

mutual

/-- If the walk of a tree succeeds, every part of it without roots has values. -/
theorem exists_values_of_mem_entries (depth start : Nat) : ∀ (t : SyntaxTree) (s s' : State),
    s.stack.Leveled → walk start t s = .ok s' → ∀ e ∈ t.entriesFrom depth start,
      e.tree.RootFree → ∃ values, Reading.values e.span.start e.tree = .ok values
  | .token kind text, s, s', hs, h, e, he, hfree => by
    obtain rfl := List.mem_singleton.mp he
    rw [walk_eq_values start _ hfree s hs] at h
    obtain ⟨values, hvalues, _⟩ := map_eq_ok_iff.mp h
    exact ⟨values, hvalues⟩
  | .node kind children, s, s', hs, h, e, he, hfree => by
    rcases List.mem_cons.mp he with rfl | he
    · rw [walk_eq_values start _ hfree s hs] at h
      obtain ⟨values, hvalues, _⟩ := map_eq_ok_iff.mp h
      exact ⟨values, hvalues⟩
    · rw [walk] at h
      obtain ⟨inside, hinside, _⟩ := bind_eq_ok_iff.mp h
      exact exists_values_of_mem_entriesOfAll (depth + 1) start children
        { s with stack := s.stack.enter } inside (hs.above []) hinside e he hfree

/-- If the walk over a list of trees succeeds, every entry in it that holds no root has a
reading. -/
theorem exists_values_of_mem_entriesOfAll (depth start : Nat) : ∀ (ts : List SyntaxTree)
    (s s' : State), s.stack.Leveled → walkAll start ts s = .ok s' →
      ∀ e ∈ entriesOfAll depth start ts,
        e.tree.RootFree → ∃ values, Reading.values e.span.start e.tree = .ok values
  | [], _, _, _, _, e, he, _ => nomatch he
  | t :: ts, s, s', hs, h, e, he, hfree => by
    rw [walkAll] at h
    obtain ⟨middle, hfirst, hrest⟩ := bind_eq_ok_iff.mp h
    rcases List.mem_append.mp he with he | he
    · exact exists_values_of_mem_entries depth start t s middle hs hfirst e he hfree
    · obtain ⟨first, _, hmiddle⟩ := exists_values_of_walk start t s middle hs hfirst
      exact exists_values_of_mem_entriesOfAll depth (start + t.width) ts middle s'
        (hmiddle ▸ hs.pushAll first) hrest e he hfree

end

end Reduction

namespace Grammar

open SyntaxTree

/-- The number of a definition has nothing to do with its tokens. -/
theorem renders_number {entries : List Entry} {definitions : List Definition}
    (h : List.Forall₂ Reading.Renders entries definitions) :
    List.Forall₂ Reading.Renders entries (number definitions) := by
  rw [number]
  generalize hplace : (fun (i : Nat) (d : Definition) => ({ d with id := i } : Definition)) = place
  have hkept (i : Nat) (d : Definition) : ∃ id, place i d = { d with id := id } :=
    ⟨i, by rw [← hplace]⟩
  clear hplace
  induction h generalizing place with
  | nil => exact .nil
  | @cons e d entries definitions hd _ ih =>
    rw [List.mapIdx_cons]
    obtain ⟨id, hid⟩ := hkept 0 d
    refine .cons ?_ (ih _ fun i => hkept (i + 1))
    rw [hid]
    refine ⟨hd.1, fun horderly => ?_⟩
    obtain ⟨w, ⟨hbody, hkind, htext, hspan, hproperties⟩, hlexemes⟩ := hd.2 horderly
    exact ⟨w, ⟨hbody, hkind, htext, hspan, hproperties⟩, hlexemes⟩

/-- If a tree can be reduced then every node of a definition in it, as long as it contains no root,
no pattern term inside another one and no two properties of the same name, is reduced to a
definition that is spelled by the tokens in the node: each token is used once, in the order of the
tree, and nothing else is. The definitions of the grammar are those that the nodes outside inner
roots are reduced to. -/
theorem tokens_conserved {tree : SyntaxTree} {g : Grammar} (h : ofTree tree = .ok g) :
    (∀ e ∈ tree.entries, ∀ kind span, e.definition? = some (kind, span) → e.Orderly →
      ∃ d, d.kind = kind ∧ d.span = span ∧ d.SpelledBy (e.tree.lexemes e.span.start) ∧
        ∀ s : Reduction.State, s.stack.Leveled → Reduction.walk e.span.start e.tree s =
          .ok { s with stack := s.stack.push (.definition d) }) ∧
    List.Forall₂ Reading.Renders
      ((openEntriesOfAll 1 0 tree.parts).filter fun e => e.definition?.isSome) g.definitions := by
  obtain ⟨children, rfl⟩ := exists_root_of_ofTree h
  refine ⟨fun e he kind span hdefinition horderly => ?_, ?_⟩
  · have hkind : (SyntaxTree.node .root children).kind = .node .root := rfl
    rw [ofTree, if_pos hkind] at h
    obtain ⟨s, hwalk, _⟩ := bind_eq_ok_iff.mp h
    obtain ⟨values, hvalues⟩ := Reduction.exists_values_of_mem_entries 0 0 _ _ s
      ScopedStack.leveled_empty hwalk e he horderly.rootFree
    obtain ⟨d, rfl, hkind, hspan, hspelled⟩ := Reading.spelled_entry hdefinition
      (span_of_mem_entries 0 0 _ e he) horderly hvalues
    refine ⟨d, hkind, hspan, hspelled, fun s hs => ?_⟩
    rw [Reduction.walk_eq_values _ _ horderly.rootFree s hs, hvalues]
    rfl
  · obtain ⟨values, hvalues, hroot⟩ := bind_eq_ok_iff.mp (Reduction.grammar_of_ofTree h)
    rw [(Reading.ofRoot_eq_ok hroot).1]
    exact renders_number (Reading.renders_valuesOfAll 1 0 children hvalues)

/-- The tree of `@drop A=/a/{2}A*[s='x'];`. -/
def repeatedA : SyntaxTree :=
  .node .definition [.node .marker [.token .kwDrop "@drop"], .token .whitespace " ",
    .token .ident "A", .token .equals "=",
    .node .sequence [
      .node .regexTerm [.token .regex "/a/",
        .node .repeatCount [.token .braceOpen "\x7b", .token .number "2",
          .token .braceClose "\x7d"]],
      .node .suffix [.token .ident "A", .token .star "*"]],
    .token .bracketOpen "[",
    .node .property [.token .ident "s", .token .equals "=", .token .string "'x'"],
    .token .bracketClose "]", .token .semicolon ";"]

/-- All tokens but blank space and punctuation are found in the definition. -/
theorem repeatedA_conserved :
    (repeatedA.lexemes 0).map Lexeme.text = ["@drop", "A", "/a/", "2", "A", "*", "s", "'x'"] ∧
      ∃ g d d', ofTree (.node .root [repeatedA]) = .ok g ∧ g.definitions = [d] ∧
        d.SpelledBy (repeatedA.lexemes 0) ∧ d'.SpelledBy (repeatedA.lexemes 0) ∧
        ∀ s : Reduction.State, s.stack.Leveled →
          Reduction.walk 0 repeatedA s = .ok { s with stack := s.stack.push (.definition d') } := by
  have hok : (ofTree (.node .root [repeatedA])).isOk = true := by decide +kernel
  obtain ⟨g, hg⟩ : ∃ g, ofTree (.node .root [repeatedA]) = .ok g := by
    cases h : ofTree (.node .root [repeatedA]) with
    | error cause => simp [h, Except.isOk, Except.toBool] at hok
    | ok g => exact ⟨g, rfl⟩
  have horderly : (Entry.mk 1 (repeatedA.spanFrom 0) repeatedA).Orderly := by
    refine ⟨?_, ?_, by decide⟩
    · simp [repeatedA, RootFree, AllRootFree]
    · simp [repeatedA, TermsApart, AllTermsApart, TermFree, AllTermFree]
  obtain ⟨heach, hall⟩ := tokens_conserved hg
  obtain ⟨d, _, hd, hnil, hdefinitions⟩ := List.forall₂_cons_left_iff.mp hall
  rw [List.forall₂_nil_left_iff.mp hnil] at hdefinitions
  have hmem : Entry.mk 1 (repeatedA.spanFrom 0) repeatedA ∈
      (SyntaxTree.node .root [repeatedA]).entries :=
    List.mem_cons_of_mem _ (List.mem_append_left _ List.mem_cons_self)
  obtain ⟨d', _, _, hspelled, hwalk⟩ := heach _ hmem _ _ rfl horderly
  exact ⟨by decide, g, d, d', hg, hdefinitions, hd.2 horderly, hspelled, hwalk⟩

end Grammar

end Peg
