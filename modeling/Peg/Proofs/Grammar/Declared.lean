import Mathlib.Data.List.Forall2
import Peg.Proofs.Grammar.InnerRoots
import Peg.Proofs.Grammar.ReadParts

/-!
# Definitions and options are kept

Every definition and every option in a syntax tree is found in its grammar, in the order of the
tree. A definition or an option is a value that no node but the root has a use for: a node hands it
on or is rejected. The exception are roots below the outermost one, which take what is in them and
give it up.
-/

namespace Peg

open Peg.Text

/-- The value that a token denotes as the value of an option. -/
def Value.ofToken? (text : String) : TokenKind → Option Value
  | .ident => some (.reference text)
  | .string => some (.text (Reduction.literalValue text))
  | .number => some (.number text)
  | .true => some (.boolean true)
  | .false => some (.boolean false)
  | _ => none

/-- Whether a node of the kind has no value of its own, but those of its parts. -/
def NodeKind.handsOn : NodeKind → Bool
  | .root | .group | .marker => true
  | _ => false

namespace SyntaxTree

/-- The kind and the place of the definition that a part of a tree stands for. -/
def Entry.definition? (e : Entry) : Option (DefinitionKind × Span) :=
  match e.tree with
  | .node .definition _ => some (.rule, e.span)
  | .node .tmDefinition _ => some (.highlight, e.span)
  | _ => none

/-- Whether a part of a tree stands for an option. -/
def Entry.isOption (e : Entry) : Bool :=
  match e.tree with
  | .node .optionDecl _ => true
  | _ => false

/-- The definitions anywhere in a tree, from left to right. -/
def definitions (t : SyntaxTree) : List (DefinitionKind × Span) :=
  t.entries.filterMap Entry.definition?

/-- The options anywhere in a tree, from left to right. -/
def options (t : SyntaxTree) : List Entry :=
  t.entries.filter Entry.isOption

mutual

/-- The tokens of a tree that are not in a root, without blank space, comments and punctuation. -/
def valueTokens : SyntaxTree → List (TokenKind × String)
  | .token kind text => if kind.isTrivia || kind.isPunctuation then [] else [(kind, text)]
  | .node kind children => if kind = .root then [] else valueTokensOfAll children

/-- The tokens of several trees that are not in a root, without blank space, comments and
punctuation. -/
def valueTokensOfAll : List SyntaxTree → List (TokenKind × String)
  | [] => []
  | t :: ts => t.valueTokens ++ valueTokensOfAll ts

end

/-- The attribute that a part of a tree stands for: its tokens are the name and the value. -/
def Entry.Declares (e : Entry) (a : Attribute) : Prop :=
  e.tree.valueTokens.map (fun token => Value.ofToken? token.2 token.1) =
    [some (.reference a.name), some a.value] ∧ a.span = e.span

mutual

/-- There is no definition and no option in the tree. -/
def Bare : SyntaxTree → Prop
  | .token _ _ => True
  | .node kind children => kind.isDeclaration = false ∧ AllBare children

/-- There is no definition and no option in the trees. -/
def AllBare : List SyntaxTree → Prop
  | [] => True
  | t :: ts => t.Bare ∧ AllBare ts

end

mutual

/-- There is no definition and no option in any root in the tree. -/
def RootsBare : SyntaxTree → Prop
  | .token _ _ => True
  | .node kind children => (kind = .root → AllBare children) ∧ AllRootsBare children

/-- There is no definition and no option in any root in the trees. -/
def AllRootsBare : List SyntaxTree → Prop
  | [] => True
  | t :: ts => t.RootsBare ∧ AllRootsBare ts

end

mutual

/-- Definitions and options lie in nodes that hand them on, and nowhere else. -/
def DeclaresOpenly : SyntaxTree → Prop
  | .token _ _ => True
  | .node kind children =>
    (kind.handsOn = true → AllDeclareOpenly children) ∧ (kind.handsOn = false → AllBare children)

/-- Definitions and options lie in nodes that hand them on, and nowhere else. -/
def AllDeclareOpenly : List SyntaxTree → Prop
  | [] => True
  | t :: ts => t.DeclaresOpenly ∧ AllDeclareOpenly ts

end

/-- Whether a part of a tree stands for a definition or an option. -/
def Entry.isDeclaration (e : Entry) : Bool :=
  e.definition?.isSome || e.isOption

/-- Whether a node stands for a declaration can be told from its kind. -/
theorem isDeclaration_node (depth : Nat) (span : Span) (kind : NodeKind)
    (children : List SyntaxTree) :
    (Entry.mk depth span (.node kind children)).isDeclaration = kind.isDeclaration := by
  cases kind <;> rfl

mutual

/-- A tree declares nothing just if none of its parts is a declaration. -/
theorem bare_iff (depth start : Nat) : ∀ t : SyntaxTree,
    t.Bare ↔ ∀ e ∈ t.entriesFrom depth start, e.isDeclaration = false
  | .token kind text => by
    simp [Bare, entriesFrom, Entry.isDeclaration, Entry.definition?, Entry.isOption]
  | .node kind children => by
    rw [Bare, entriesFrom, List.forall_mem_cons, isDeclaration_node,
      allBare_iff (depth + 1) start children]

/-- Trees declare nothing just if none of their parts is a declaration. -/
theorem allBare_iff (depth start : Nat) : ∀ ts : List SyntaxTree,
    AllBare ts ↔ ∀ e ∈ entriesOfAll depth start ts, e.isDeclaration = false
  | [] => by simp [AllBare, entriesOfAll]
  | t :: ts => by
    rw [AllBare, entriesOfAll, List.forall_mem_append, bare_iff depth start t,
      allBare_iff depth (start + t.width) ts]

end

/-- Parts of a tree that declare nothing are neither definitions nor options. -/
theorem forall_isDeclaration_eq_false_iff {entries : List Entry} :
    (∀ e ∈ entries, e.isDeclaration = false) ↔
      entries.filterMap Entry.definition? = [] ∧ entries.filter Entry.isOption = [] := by
  simp [Entry.isDeclaration, List.filterMap_eq_nil_iff, List.filter_eq_nil_iff, forall_and]

end SyntaxTree

namespace Operand

/-- The definition among the operands. -/
def definition? : Operand → Option Definition
  | .definition d => some d
  | _ => none

/-- The option among the operands. -/
def option? : Operand → Option Attribute
  | .option a => some a
  | _ => none

/-- Operands that declare nothing are neither definitions nor options. -/
theorem forall_isDeclaration_eq_false_iff {operands : List Operand} :
    (∀ o ∈ operands, o.isDeclaration = false) ↔
      operands.filterMap definition? = [] ∧ operands.filterMap option? = [] := by
  have hdeclares (o : Operand) :
      o.isDeclaration = false ↔ o.definition? = none ∧ o.option? = none := by
    cases o <;> simp [isDeclaration, definition?, option?]
  simp [hdeclares, List.filterMap_eq_nil_iff, forall_and]

end Operand

namespace Reading

open Reduction

/-- Definitions and options among values are those among the parts of a tree, in the same order. -/
structure Accounts (entries : List SyntaxTree.Entry) (values : List Operand) : Prop where
  definitions : (values.filterMap Operand.definition?).map (fun d => (d.kind, d.span)) =
    entries.filterMap SyntaxTree.Entry.definition?
  options : List.Forall₂ SyntaxTree.Entry.Declares (entries.filter SyntaxTree.Entry.isOption)
    (values.filterMap Operand.option?)

namespace Accounts

open SyntaxTree

variable {entries more : List Entry} {values others : List Operand}

/-- No values account for no parts. -/
theorem nil : Accounts [] [] :=
  ⟨rfl, .nil⟩

/-- Values in a row account for parts in a row. -/
theorem append (h : Accounts entries values) (hmore : Accounts more others) :
    Accounts (entries ++ more) (values ++ others) where
  definitions := by
    rw [List.filterMap_append, List.map_append, h.definitions, hmore.definitions,
      List.filterMap_append]
  options := by
    rw [List.filter_append, List.filterMap_append]
    exact List.rel_append h.options hmore.options

/-- Where no value is a definition or an option, no part of the tree is one either. -/
theorem bare (h : Accounts entries values) (hvalues : ∀ o ∈ values, o.isDeclaration = false) :
    ∀ e ∈ entries, e.isDeclaration = false := by
  obtain ⟨hdefinitions, hoptions⟩ := Operand.forall_isDeclaration_eq_false_iff.mp hvalues
  refine forall_isDeclaration_eq_false_iff.mpr ⟨?_, ?_⟩
  · rw [← h.definitions, hdefinitions, List.map_nil]
  · exact List.forall₂_nil_right_iff.mp (hoptions ▸ h.options)

/-- Values that declare nothing account for parts that declare nothing. -/
theorem of_bare (hvalues : ∀ o ∈ values, o.isDeclaration = false)
    (hentries : ∀ e ∈ entries, e.isDeclaration = false) : Accounts entries values := by
  obtain ⟨hdefinitions, hoptions⟩ := Operand.forall_isDeclaration_eq_false_iff.mp hvalues
  obtain ⟨hdefinitions', hoptions'⟩ := forall_isDeclaration_eq_false_iff.mp hentries
  refine ⟨?_, ?_⟩
  · rw [hdefinitions, hdefinitions', List.map_nil]
  · rw [hoptions, hoptions']
    exact .nil

/-- A part that declares nothing needs no value. -/
theorem cons {e : Entry} (he : e.isDeclaration = false) (h : Accounts entries values) :
    Accounts (e :: entries) values :=
  append (of_bare (by simp) (by simpa using he) : Accounts [e] []) h

/-- Parts that declare nothing need no value. -/
theorem append_bare (h : Accounts entries values) (hmore : ∀ e ∈ more, e.isDeclaration = false) :
    Accounts (entries ++ more) values := by
  have hnone : Accounts more [] := of_bare (by simp) hmore
  have happend := h.append hnone
  rwa [List.append_nil] at happend

end Accounts

variable {kind : NodeKind} {span : Span} {values own : List Operand}

/-- Parts that are used up leave nothing over. -/
theorem eq_nil_of_usedUp {parts : Parts} (h : usedUp kind span parts = .ok ()) : parts = [] := by
  rw [usedUp] at h
  split at h
  next hlast => exact List.getLast?_eq_none_iff.mp hlast
  · cases h

/-- A node with a value of its own has nothing else. -/
theorem ofNode_eq_ok {read : Span → Parts → Except Malformed (Operand × Parts)}
    (hread : reading? kind = some read) (h : ofNode kind span values = .ok own) :
    ∃ value, own = [value] ∧ read span values.reverse = .ok (value, []) := by
  rw [ofNode, hread] at h
  obtain ⟨⟨value, rest⟩, hvalue, h⟩ := bind_eq_ok_iff.mp h
  obtain ⟨_, hused, hresult⟩ := bind_eq_ok_iff.mp h
  cases hresult
  obtain rfl := eq_nil_of_usedUp hused
  exact ⟨value, rfl, hvalue⟩

/-- A node that hands on its values has just these. -/
theorem ofNode_of_handsOn (h : kind.handsOn = true) : ofNode kind span values = .ok values := by
  cases kind <;> first | rfl | cases h

/-- A node that hands on its values is no declaration itself. -/
theorem isDeclaration_of_handsOn (h : kind.handsOn = true) : kind.isDeclaration = false := by
  cases kind <;> first | rfl | cases h

/-- A node that hands nothing on is read as something. -/
theorem exists_reading_of_handsOn (h : kind.handsOn = false) :
    ∃ read, reading? kind = some read := by
  cases kind <;> first | exact ⟨_, rfl⟩ | cases h

/-- Only a value for an option can be the value of an option's token. -/
theorem value?_of_ofToken {tokenKind : TokenKind} {text : String}
    (h : ofToken tokenKind text span = .ok values)
    (hvalues : ∀ o ∈ values, o.value?.isSome = true) :
    ((SyntaxTree.token tokenKind text).valueTokens.map fun token =>
      Value.ofToken? token.2 token.1) = values.map Operand.value? := by
  cases tokenKind <;> cases h <;> rfl

mutual

/-- If all that a tree means may stand for the values of options, it is what the tokens mean. -/
theorem valueTokens_of_values (start : Nat) : ∀ (t : SyntaxTree) {values : List Operand},
    t.RootFree → Reading.values start t = .ok values → (∀ o ∈ values, o.value?.isSome = true) →
      (t.valueTokens.map fun token => Value.ofToken? token.2 token.1) =
        values.map Operand.value?
  | .token kind text, values, _, h, hvalues => by
    rw [Reading.values] at h
    exact value?_of_ofToken h hvalues
  | .node kind children, values, hfree, h, hvalues => by
    rw [Reading.values] at h
    obtain ⟨inner, hinner, h⟩ := bind_eq_ok_iff.mp h
    have hinside := valueTokens_of_valuesOfAll start children hfree.2 hinner
    rw [SyntaxTree.valueTokens, if_neg hfree.1]
    cases hkind : kind.handsOn with
    | true =>
      rw [ofNode_of_handsOn hkind] at h
      cases h
      exact hinside hvalues
    | false =>
      obtain ⟨read, hread⟩ := exists_reading_of_handsOn hkind
      obtain ⟨value, rfl, hvalue⟩ := ofNode_eq_ok hread h
      have halone := (readFrom_reading hread hvalue).alone (hvalues value List.mem_cons_self) rfl
      rw [List.reverse_eq_iff.mp halone] at hinside
      exact hinside hvalues

/-- If all that trees mean may stand for the values of options, it is what their tokens mean. -/
theorem valueTokens_of_valuesOfAll (start : Nat) : ∀ (ts : List SyntaxTree)
    {values : List Operand}, SyntaxTree.AllRootFree ts → valuesOfAll start ts = .ok values →
      (∀ o ∈ values, o.value?.isSome = true) →
        ((SyntaxTree.valueTokensOfAll ts).map fun token => Value.ofToken? token.2 token.1) =
          values.map Operand.value?
  | [], values, _, h, _ => by
    cases h
    rfl
  | t :: ts, values, hfree, h, hvalues => by
    rw [valuesOfAll] at h
    obtain ⟨first, hfirst, h⟩ := bind_eq_ok_iff.mp h
    obtain ⟨rest, hrest, h⟩ := bind_eq_ok_iff.mp h
    cases h
    rw [List.forall_mem_append] at hvalues
    rw [SyntaxTree.valueTokensOfAll, List.map_append, List.map_append,
      valueTokens_of_values start t hfree.1 hfirst hvalues.1,
      valueTokens_of_valuesOfAll (start + t.width) ts hfree.2 hrest hvalues.2]

end

/-- The value that an element has as that of an option is the one that its operand stands for. -/
theorem value?_of_elementValue {e : Element} {v : Value} (h : elementValue e = .ok v) :
    (Operand.element e).value? = some v := by
  cases e <;> cases h <;> rfl

/-- An option has the name and the value that the tokens of its node are. -/
theorem accounts_option {value : Operand}
    (h : attributed .option .optionDecl span values.reverse = .ok (value, []))
    {depth start : Nat} {children : List SyntaxTree} (hfree : SyntaxTree.AllRootFree children)
    (hchildren : valuesOfAll start children = .ok values) :
    Accounts [⟨depth, span, .node .optionDecl children⟩] [value] := by
  obtain ⟨e, a, hparts, hvalue, hspan, rfl⟩ := attributed_eq_ok h
  have hvalues : values = [.element (.reference a.nameSpan a.name), .element e] :=
    List.reverse_eq_iff.mp hparts
  subst hvalues
  have hsome := value?_of_elementValue hvalue
  have htokens := valueTokens_of_valuesOfAll start children hfree hchildren (by simp [hsome])
  refine ⟨rfl, .cons ⟨?_, hspan⟩ .nil⟩
  rw [SyntaxTree.valueTokens, if_neg (by simp), htokens]
  simp [hsome]

/-- The definition that is read from a node accounts for the node. -/
theorem accounts_definition {definitionKind : DefinitionKind} {value : Operand}
    (h : definition definitionKind kind span values.reverse = .ok (value, []))
    {e : SyntaxTree.Entry} (hdefinition : e.definition? = some (definitionKind, span))
    (hoption : e.isOption = false) : Accounts [e] [value] := by
  obtain ⟨_, _, _, _, _, rfl⟩ := definition_eq_ok h
  exact ⟨by simp [Operand.definition?, hdefinition], by simp [hoption, Operand.option?]⟩

/-- The value of a node accounts for the node, whatever is in it. -/
theorem accounts_own {read : Span → Parts → Except Malformed (Operand × Parts)} {value : Operand}
    (hread : reading? kind = some read) (h : read span values.reverse = .ok (value, []))
    {depth start : Nat} {children : List SyntaxTree} (hfree : SyntaxTree.AllRootFree children)
    (hchildren : valuesOfAll start children = .ok values) :
    Accounts [⟨depth, span, .node kind children⟩] [value] := by
  cases hkind : kind.isDeclaration with
  | false =>
    refine Accounts.of_bare ?_ ?_
    · simpa [hkind] using (readFrom_reading hread h).isDeclaration_eq
    · simpa [hkind] using SyntaxTree.isDeclaration_node depth span kind children
  | true =>
    cases kind <;> cases hkind <;> cases hread
    · exact accounts_option h hfree hchildren
    · exact accounts_definition h rfl rfl
    · exact accounts_definition h rfl rfl

/-- Nothing that a token denotes is a definition or an option. -/
theorem accounts_token {tokenKind : TokenKind} {text : String}
    (h : ofToken tokenKind text span = .ok values) (depth : Nat) (place : Span) :
    Accounts [⟨depth, place, .token tokenKind text⟩] values := by
  refine Accounts.of_bare ?_ fun e he => ?_
  · cases tokenKind <;> cases h <;> simp [Operand.isDeclaration]
  · cases List.mem_singleton.mp he
    rfl

mutual

/-- The values of a tree without roots account for all of its parts, and no definition or option is
in a node that has a value of its own. -/
theorem accounts_of_values (depth start : Nat) : ∀ (t : SyntaxTree) {values : List Operand},
    t.RootFree → Reading.values start t = .ok values →
      Accounts (t.entriesFrom depth start) values ∧ t.DeclaresOpenly
  | .token kind text, values, _, h => by
    rw [Reading.values] at h
    exact ⟨accounts_token h depth _, trivial⟩
  | .node kind children, values, hfree, h => by
    rw [Reading.values] at h
    obtain ⟨inner, hinner, hown⟩ := bind_eq_ok_iff.mp h
    obtain ⟨hchildren, hopen⟩ := accounts_of_valuesOfAll (depth + 1) start children hfree.2 hinner
    rw [SyntaxTree.entriesFrom]
    cases hkind : kind.handsOn with
    | true =>
      -- The node is no definition and no option, and it hands on whatever its parts declare.
      rw [ofNode_of_handsOn hkind] at hown
      cases hown
      have hentry := isDeclaration_of_handsOn hkind
      rw [← SyntaxTree.isDeclaration_node depth _ kind children] at hentry
      exact ⟨hchildren.cons hentry, fun _ => hopen, fun hfalse => by simp [hkind] at hfalse⟩
    | false =>
      obtain ⟨read, hread⟩ := exists_reading_of_handsOn hkind
      obtain ⟨value, rfl, hvalue⟩ := ofNode_eq_ok hread hown
      -- All values of the parts were used for the one value, so none of them declares anything.
      have hdeclared : ∀ o ∈ inner, o.isDeclaration = false := by
        simpa [declared] using (readFrom_reading hread hvalue).declared_eq
      have hbare := hchildren.bare hdeclared
      refine ⟨(accounts_own hread hvalue hfree.2 hinner).append_bare hbare,
        fun htrue => by simp [hkind] at htrue, fun _ => ?_⟩
      exact (SyntaxTree.allBare_iff (depth + 1) start children).mpr hbare

/-- What trees in a row mean accounts for their declarations, and each of these lies open. -/
theorem accounts_of_valuesOfAll (depth start : Nat) : ∀ (ts : List SyntaxTree)
    {values : List Operand}, SyntaxTree.AllRootFree ts → valuesOfAll start ts = .ok values →
      Accounts (SyntaxTree.entriesOfAll depth start ts) values ∧ SyntaxTree.AllDeclareOpenly ts
  | [], values, _, h => by
    cases h
    exact ⟨.nil, trivial⟩
  | t :: ts, values, hfree, h => by
    rw [valuesOfAll] at h
    obtain ⟨first, hfirst, h⟩ := bind_eq_ok_iff.mp h
    obtain ⟨rest, hrest, h⟩ := bind_eq_ok_iff.mp h
    cases h
    obtain ⟨hhead, hheadOpen⟩ := accounts_of_values depth start t hfree.1 hfirst
    obtain ⟨htail, htailOpen⟩ :=
      accounts_of_valuesOfAll depth (start + t.width) ts hfree.2 hrest
    exact ⟨hhead.append htail, hheadOpen, htailOpen⟩

end

end Reading

end Peg
