import Mathlib.Data.List.Induction
import Peg.Proofs.Grammar.Declared

/-!
# Nothing is lost in reduction

The grammar of a syntax tree has a definition for every definition anywhere in the tree and an
option for every option, unless they are in a root that is not the outermost one. Options of the
same name are one option, whose value was given last.
-/

namespace Peg

namespace Attributes

/-- The attributes are those that were written: each name where it was first written, with the
attribute that was written last. -/
structure Collect (attributes : Attributes) (written : List Attribute) : Prop where
  names : attributes.map Attribute.name = (written.map Attribute.name).eraseDups
  last : ∀ name, attributes.get? name = written.reverse.find? fun a => a.name == name

/-- A name is looked up in the first attribute, and then in the others. -/
theorem get?_cons (a : Attribute) (attributes : Attributes) (name : String) :
    get? (a :: attributes) name = if a.name = name then some a else get? attributes name := by
  by_cases h : a.name = name
  · simp [get?, h]
  · have hbeq : (a.name == name) = false := beq_false_of_ne h
    simp [get?, hbeq, h]

/-- Behind an insertion a name has the inserted value, and all other names have theirs. -/
theorem get?_insert (a : Attribute) (attributes : Attributes) (name : String) :
    (insert a attributes).get? name = if a.name = name then some a else attributes.get? name := by
  induction attributes with
  | nil => exact get?_cons a [] name
  | cons b bs ih =>
    by_cases hb : b.name = a.name
    · rw [insert, if_pos hb, get?_cons, get?_cons, hb]
      split <;> rfl
    · rw [insert, if_neg hb, get?_cons, get?_cons, ih]
      split
      next hname => rw [if_neg fun ha => hb (hname.trans ha.symm)]
      · rfl

/-- An insertion adds a new name at the end and leaves a known one where it is. -/
theorem map_name_insert (a : Attribute) (attributes : Attributes) :
    (insert a attributes).map Attribute.name =
      if a.name ∈ attributes.map Attribute.name then attributes.map Attribute.name
      else attributes.map Attribute.name ++ [a.name] := by
  induction attributes with
  | nil => rfl
  | cons b bs ih =>
    by_cases hb : b.name = a.name
    · simp [insert, hb]
    · have ha : a.name ≠ b.name := Ne.symm hb
      rw [insert, if_neg hb, List.map_cons, ih, List.map_cons]
      split <;> simp_all

/-- The attributes that are made of a list collect just what is written in it. -/
theorem collect_ofList (written : List Attribute) : (ofList written).Collect written := by
  induction written using List.reverseRecOn with
  | nil => exact ⟨rfl, fun _ => rfl⟩
  | append_singleton written a ih =>
    have hinsert : ofList (written ++ [a]) = insert a (ofList written) := by simp [ofList]
    refine ⟨?_, fun name => ?_⟩
    · rw [hinsert, map_name_insert, ih.names, List.map_append, List.eraseDups_append]
      simp only [List.mem_eraseDups]
      by_cases h : a.name ∈ written.map Attribute.name
      · rw [if_pos h, List.map_singleton, List.removeAll, List.filter_cons_of_neg (by simp [h])]
        simp
      · rw [if_neg h, List.map_singleton, List.removeAll, List.filter_cons_of_pos (by simp [h])]
        rfl
    · rw [hinsert, get?_insert, ih.last, List.reverse_concat]
      exact (get?_cons a written.reverse name).symm

end Attributes

/-- A definition or an option as a value. -/
def TopLevel.toOperand : TopLevel → Operand
  | .definition d => .definition d
  | .option a => .option a

/-- What stands below the root is the operand of a definition or of an option. -/
theorem Operand.toOperand_of_extract? {o : Operand} {item : TopLevel}
    (h : topLevelKind.extract? o = some item) : o = item.toOperand := by
  cases o <;> cases h <;> rfl

/-- As an operand a definition is still the same definition. -/
@[simp] theorem TopLevel.definition?_toOperand (item : TopLevel) :
    item.toOperand.definition? = item.definition? := by
  cases item <;> rfl

/-- As an operand an option is still the same option. -/
@[simp] theorem TopLevel.option?_toOperand (item : TopLevel) :
    item.toOperand.option? = item.option? := by
  cases item <;> rfl

/-- A grammar is made of its definitions, numbered, and of its options. -/
theorem Grammar.ofDefinitions_eq_ok {definitions : List Definition} {options : List Attribute}
    {g : Grammar} (h : ofDefinitions definitions options = .ok g) :
    g.definitions = number definitions ∧ g.options = Attributes.ofList options := by
  unfold ofDefinitions at h
  dsimp only at h
  split at h <;> cases h
  exact ⟨rfl, rfl⟩

namespace Reading

open Reduction

/-- A root blames itself for a value that it has no use for, or it makes a grammar of the
definitions and options among the values. -/
theorem ofRoot_eq (span : Span) (values : List Operand) :
    (∃ cause, ofRoot span values = .error cause ∧ cause.span = span) ∨
      ofRoot span values = (Grammar.ofDefinitions (values.filterMap Operand.definition?)
        (values.filterMap Operand.option?)).mapError .grammar := by
  rw [ofRoot]
  have hitems := map_run_append faithful_topLevelKind Operand.toOperand_of_extract? values.reverse
  generalize run Operand.topLevelKind values.reverse = result at hitems
  obtain ⟨items, parts⟩ := result
  cases parts using List.reverseRecOn with
  | nil =>
    have hvalues : values = items.map TopLevel.toOperand := by
      have hreverse := congrArg List.reverse hitems
      simpa using hreverse.symm
    right
    simp only [hvalues, List.filterMap_map, Function.comp_def, TopLevel.definition?_toOperand,
      TopLevel.option?_toOperand]
    cases Grammar.ofDefinitions (items.filterMap TopLevel.definition?)
      (items.filterMap TopLevel.option?) <;> rfl
  | append_singleton parts extra =>
    have hused : usedUp .root span (parts ++ [extra]) =
        .error (.leftover .root extra.describe span) := by
      rw [usedUp, List.getLast?_concat]
    exact .inl ⟨_, by simp only [hused]; rfl, rfl⟩

/-- A root puts all values into its grammar or is rejected. -/
theorem ofRoot_eq_ok {span : Span} {values : List Operand} {g : Grammar}
    (h : ofRoot span values = .ok g) :
    g.definitions = Grammar.number (values.filterMap Operand.definition?) ∧
      g.options = Attributes.ofList (values.filterMap Operand.option?) := by
  rcases ofRoot_eq span values with ⟨cause, herror, _⟩ | heq
  · rw [h] at herror
    cases herror
  · exact Grammar.ofDefinitions_eq_ok (mapError_eq_ok_iff.mp (heq.symm.trans h))

end Reading

namespace SyntaxTree

/-- The parts that a tree is put together from. -/
def parts : SyntaxTree → List SyntaxTree
  | .token _ _ => []
  | .node _ children => children

mutual

/-- A tree that declares nothing hides no declaration. -/
theorem declaresOpenly_of_bare : ∀ t : SyntaxTree, t.Bare → t.DeclaresOpenly
  | .token _ _, _ => trivial
  | .node _ children, h => ⟨fun _ => allDeclareOpenly_of_bare children h.2, fun _ => h.2⟩

/-- Trees that declare nothing hide no declaration. -/
theorem allDeclareOpenly_of_bare : ∀ ts : List SyntaxTree, AllBare ts → AllDeclareOpenly ts
  | [], _ => trivial
  | t :: ts, h => ⟨declaresOpenly_of_bare t h.1, allDeclareOpenly_of_bare ts h.2⟩

end

mutual

/-- A tree declares nothing if it does so without what is in its roots, and these declare
nothing. -/
theorem bare_of_blankRoots : ∀ t : SyntaxTree, t.RootsBare → t.blankRoots.Bare → t.Bare
  | .token _ _, _, _ => trivial
  | .node kind children, hroots, h => by
    rw [blankRoots] at h
    split at h
    next hkind =>
      subst hkind
      exact ⟨rfl, hroots.1 rfl⟩
    · exact ⟨h.1, allBare_of_blankRoots children hroots.2 h.2⟩

/-- Trees declare nothing if they do so without what is in their roots, and these declare
nothing. -/
theorem allBare_of_blankRoots : ∀ ts : List SyntaxTree, AllRootsBare ts →
    AllBare (blankRootsOfAll ts) → AllBare ts
  | [], _, _ => trivial
  | t :: ts, hroots, h =>
    ⟨bare_of_blankRoots t hroots.1 h.1, allBare_of_blankRoots ts hroots.2 h.2⟩

end

mutual

/-- A tree hides no declaration if it hides none without what is in its roots, and these declare
nothing. -/
theorem declaresOpenly_of_blankRoots : ∀ t : SyntaxTree, t.RootsBare →
    t.blankRoots.DeclaresOpenly → t.DeclaresOpenly
  | .token _ _, _, _ => trivial
  | .node kind children, hroots, h => by
    rw [blankRoots] at h
    split at h
    next hkind =>
      subst hkind
      exact declaresOpenly_of_bare _ ⟨rfl, hroots.1 rfl⟩
    · exact ⟨fun hkind => allDeclareOpenly_of_blankRoots children hroots.2 (h.1 hkind),
        fun hkind => allBare_of_blankRoots children hroots.2 (h.2 hkind)⟩

/-- Trees hide no declaration if they hide none without what is in their roots, and these declare
nothing. -/
theorem allDeclareOpenly_of_blankRoots : ∀ ts : List SyntaxTree, AllRootsBare ts →
    AllDeclareOpenly (blankRootsOfAll ts) → AllDeclareOpenly ts
  | [], _, _ => trivial
  | t :: ts, hroots, h =>
    ⟨declaresOpenly_of_blankRoots t hroots.1 h.1, allDeclareOpenly_of_blankRoots ts hroots.2 h.2⟩

end

mutual

/-- The tokens of a value do not come from roots. -/
@[simp] theorem valueTokens_blankRoots : ∀ t : SyntaxTree,
    t.blankRoots.valueTokens = t.valueTokens
  | .token _ _ => rfl
  | .node kind children => by
    rw [blankRoots]
    split
    next hkind => simp [valueTokens, hkind, TokenKind.isTrivia]
    · rw [valueTokens, valueTokens, valueTokensOfAll_blankRootsOfAll children]

/-- The tokens of values do not come from roots. -/
@[simp] theorem valueTokensOfAll_blankRootsOfAll : ∀ ts : List SyntaxTree,
    valueTokensOfAll (blankRootsOfAll ts) = valueTokensOfAll ts
  | [] => rfl
  | t :: ts => by
    rw [blankRootsOfAll, valueTokensOfAll, valueTokensOfAll, valueTokens_blankRoots t,
      valueTokensOfAll_blankRootsOfAll ts]

end

/-- The tokens and the place of a part of a tree, from which the option can be read that the part
stands for. -/
def Entry.wording (e : Entry) : List (TokenKind × String) × Span :=
  (e.tree.valueTokens, e.span)

/-- Parts of two trees stand for the same definitions and options, in the same order. -/
structure Alike (entries others : List Entry) : Prop where
  definitions : entries.filterMap Entry.definition? = others.filterMap Entry.definition?
  options : (entries.filter Entry.isOption).map Entry.wording =
    (others.filter Entry.isOption).map Entry.wording

namespace Alike

variable {entries others more moreOthers : List Entry}

/-- Parts that stand for the same declarations do so also in a row. -/
theorem append (h : Alike entries others) (hmore : Alike more moreOthers) :
    Alike (entries ++ more) (others ++ moreOthers) where
  definitions := by
    rw [List.filterMap_append, List.filterMap_append, h.definitions, hmore.definitions]
  options := by
    rw [List.filter_append, List.filter_append, List.map_append, List.map_append, h.options,
      hmore.options]

/-- Parts that stand for no declaration stand for the same ones. -/
theorem of_bare (hentries : ∀ e ∈ entries, e.isDeclaration = false)
    (hothers : ∀ e ∈ others, e.isDeclaration = false) : Alike entries others := by
  obtain ⟨hdefinitions, hoptions⟩ := forall_isDeclaration_eq_false_iff.mp hentries
  obtain ⟨hdefinitions', hoptions'⟩ := forall_isDeclaration_eq_false_iff.mp hothers
  exact ⟨hdefinitions.trans hdefinitions'.symm, by rw [hoptions, hoptions']⟩

/-- Nodes of the same kind, at the same place and with the same tokens declare the same. -/
theorem node {depth : Nat} {span : Span} {kind : NodeKind} {children children' : List SyntaxTree}
    (h : (SyntaxTree.node kind children).valueTokens =
      (SyntaxTree.node kind children').valueTokens) :
    Alike [⟨depth, span, .node kind children⟩] [⟨depth, span, .node kind children'⟩] where
  definitions := by cases kind <;> rfl
  options := by
    cases kind <;> first | rfl | exact congrArg (fun tokens => [(tokens, span)]) h

/-- The same options can be read from parts of two trees that stand for the same. -/
theorem declares {attributes : List Attribute} (h : Alike entries others)
    (hdeclares : List.Forall₂ Entry.Declares (entries.filter Entry.isOption) attributes) :
    List.Forall₂ Entry.Declares (others.filter Entry.isOption) attributes := by
  let reads (wording : List (TokenKind × String) × Span) (a : Attribute) : Prop :=
    wording.1.map (fun token => Value.ofToken? token.2 token.1) =
      [some (.reference a.name), some a.value] ∧ a.span = wording.2
  have hreads (l : List Entry) :
      List.Forall₂ reads (l.map Entry.wording) attributes ↔
        List.Forall₂ Entry.Declares l attributes :=
    List.forall₂_map_left_iff
  rwa [← hreads, ← h.options, hreads]

end Alike

mutual

/-- If its roots declare nothing, a tree stands for the same declarations without what is in
them. -/
theorem alike_blankRoots (depth start : Nat) : ∀ t : SyntaxTree, t.RootsBare →
    Alike (t.blankRoots.entriesFrom depth start) (t.entriesFrom depth start)
  | .token _ _, _ => ⟨rfl, rfl⟩
  | .node kind children, hroots => by
    rw [blankRoots]
    split
    next hkind =>
      subst hkind
      refine .of_bare (by simp [entriesFrom, Entry.isDeclaration, Entry.definition?,
        Entry.isOption]) ?_
      exact (bare_iff depth start _).mp ⟨rfl, hroots.1 rfl⟩
    next hkind =>
      have hspan : (SyntaxTree.node kind (blankRootsOfAll children)).spanFrom start =
          (SyntaxTree.node kind children).spanFrom start := by
        simp [spanFrom, width]
      have hwords : (SyntaxTree.node kind (blankRootsOfAll children)).valueTokens =
          (SyntaxTree.node kind children).valueTokens := by
        simp [valueTokens]
      rw [entriesFrom, entriesFrom, hspan]
      exact (Alike.node hwords).append
        (alike_blankRootsOfAll (depth + 1) start children hroots.2)

/-- If their roots declare nothing, trees stand for the same declarations without what is in
them. -/
theorem alike_blankRootsOfAll (depth start : Nat) : ∀ ts : List SyntaxTree, AllRootsBare ts →
    Alike (entriesOfAll depth start (blankRootsOfAll ts)) (entriesOfAll depth start ts)
  | [], _ => ⟨rfl, rfl⟩
  | t :: ts, hroots => by
    rw [blankRootsOfAll, entriesOfAll, entriesOfAll, width_blankRoots]
    exact (alike_blankRoots depth start t hroots.1).append
      (alike_blankRootsOfAll depth (start + t.width) ts hroots.2)

end

end SyntaxTree

namespace Grammar

/-- Only a root has a grammar. -/
theorem exists_root_of_ofTree {tree : SyntaxTree} {g : Grammar} (h : ofTree tree = .ok g) :
    ∃ children, tree = .node .root children := by
  rw [ofTree] at h
  split at h
  next hkind =>
    cases tree with
    | token _ _ => cases hkind
    | node kind children =>
      cases hkind
      exact ⟨children, rfl⟩
  · cases h

/-- Numbering leaves everything but the numbers as it is. -/
theorem map_number {α : Type} {f : Definition → α} (hf : ∀ d id, f { d with id := id } = f d)
    (definitions : List Definition) : (number definitions).map f = definitions.map f := by
  apply List.ext_getElem
  · simp [number]
  · intro i _ _
    simp [number, hf]

/-- Numbering leaves the kinds and the places of definitions. -/
theorem map_kind_span_number (definitions : List Definition) :
    (number definitions).map (fun d => (d.kind, d.span)) =
      definitions.map fun d => (d.kind, d.span) :=
  map_number (fun _ _ => rfl) definitions

/-- A grammar has the definitions of its tree, in their order, and the options of its tree, each
where its name was first written and with the value that was written last. In the tree, no
definition or option is in a node that has no use for it. -/
theorem declarations_kept {tree : SyntaxTree} {g : Grammar}
    (hroots : SyntaxTree.AllRootsBare tree.parts) (h : ofTree tree = .ok g) :
    g.definitions.map (fun d => (d.kind, d.span)) = tree.definitions ∧
      (∃ options, List.Forall₂ SyntaxTree.Entry.Declares tree.options options ∧
        g.options.Collect options) ∧
      tree.DeclaresOpenly := by
  obtain ⟨children, rfl⟩ := exists_root_of_ofTree h
  obtain ⟨values, hvalues, hroot⟩ := bind_eq_ok_iff.mp (Reduction.grammar_of_ofTree h)
  obtain ⟨hdefinitions, hoptions⟩ := Reading.ofRoot_eq_ok hroot
  obtain ⟨haccounts, hopen⟩ := Reading.accounts_of_valuesOfAll 1 0 _
    (SyntaxTree.allRootFree_blankRootsOfAll children) hvalues
  have halike := SyntaxTree.alike_blankRootsOfAll 1 0 children hroots
  refine ⟨?_, ⟨_, halike.declares haccounts.options, ?_⟩, fun _ => ?_, fun hkind => nomatch hkind⟩
  · rw [hdefinitions, map_kind_span_number, haccounts.definitions, halike.definitions]
    rfl
  · rw [hoptions]
    exact Attributes.collect_ofList _
  · exact SyntaxTree.allDeclareOpenly_of_blankRoots children hroots hopen

/-- The tree of `o=1;A='a';tm B=A;o=2;`, with the definition of `B` in a group and an empty root
behind it. -/
def groupedB : SyntaxTree :=
  .node .root
    [.node .optionDecl [.token .ident "o", .token .equals "=", .token .number "1",
      .token .semicolon ";"],
    .node .definition [.token .ident "A", .token .equals "=", .token .string "'a'",
      .token .semicolon ";"],
    .node .group [.node .tmDefinition [.token .kwTm "tm", .token .whitespace " ",
      .token .ident "B", .token .equals "=", .token .ident "A", .token .semicolon ";"],
      .node .root []],
    .node .optionDecl [.token .ident "o", .token .equals "=", .token .number "2",
      .token .semicolon ";"]]

/-- Both definitions are kept, and of the two declarations of the option the second value. -/
theorem groupedB_declarations :
    ∃ g, ofTree groupedB = .ok g ∧ SyntaxTree.AllRootsBare groupedB.parts ∧
      groupedB.definitions = [(.rule, ⟨4, 10⟩), (.highlight, ⟨10, 17⟩)] ∧
      g.definitions.map (fun d => (d.kind, d.span)) = groupedB.definitions ∧
      groupedB.options.map SyntaxTree.Entry.span = [⟨0, 4⟩, ⟨17, 21⟩] ∧
      (∃ options, List.Forall₂ SyntaxTree.Entry.Declares groupedB.options options ∧
        g.options.Collect options) ∧
      g.options.map (fun a => (a.name, a.value)) = [("o", .number "2")] ∧
      groupedB.DeclaresOpenly := by
  have hroots : SyntaxTree.AllRootsBare groupedB.parts := by
    simp [groupedB, SyntaxTree.parts, SyntaxTree.AllRootsBare, SyntaxTree.RootsBare,
      SyntaxTree.AllBare]
  have hvalue : (ofTree groupedB).toOption.map (fun g =>
      g.options.map fun a => (a.name, a.value)) = some [("o", .number "2")] := by
    decide +kernel
  obtain ⟨g, hg, hlast⟩ := Option.map_eq_some_iff.mp hvalue
  have hg : ofTree groupedB = .ok g := by
    cases h : ofTree groupedB with
    | error cause => simp [h, Except.toOption] at hg
    | ok g' => simpa [h, Except.toOption] using hg
  obtain ⟨hdefinitions, hoptions, hopenly⟩ := declarations_kept hroots hg
  exact ⟨g, hg, hroots, by decide +kernel, hdefinitions, by decide +kernel, hoptions, hlast,
    hopenly⟩

/-- The tree of `A='a';` in a root of its own. -/
def rootInRoot : SyntaxTree :=
  .node .root [.node .root [.node .definition [.token .ident "A", .token .equals "=",
    .token .string "'a'", .token .semicolon ";"]]]

/-- What is in a root below the outermost one is lost without an error. -/
theorem rootInRoot_definition_lost :
    (ofTree rootInRoot).toOption.map Grammar.definitions = some [] ∧
      rootInRoot.definitions = [(.rule, ⟨0, 6⟩)] := by
  decide +kernel

end Grammar

end Peg
