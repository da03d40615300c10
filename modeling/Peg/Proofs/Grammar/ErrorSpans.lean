import Peg.Proofs.Grammar.NameResolution
import Peg.Proofs.Grammar.NestedSpans

/-!
# The places of errors

A syntax tree that makes no grammar is rejected at a place inside of it. A node that cannot be read
blames itself or one of its parts, and a name that is defined twice is in a definition. So every
error is inside of the node that is left when it arises, and that one is inside of the root.
-/

namespace Peg

namespace Reading

open Peg.Operand (Laid)
open Reduction

variable {α β : Type} {kind : NodeKind} {span : Span} {parts rest : Parts}

/-- If the computation fails, it blames the node or one of its parts. -/
def Blames (span : Span) (parts : Parts) (x : Except Malformed α) : Prop :=
  ∀ cause, x = .error cause → cause.span ∈ span :: parts.map Operand.span

/-- A computation that succeeds blames nothing. -/
theorem blames_ok (a : α) : Blames span parts (.ok a) :=
  fun _ h => nomatch h

/-- A computation in two parts blames what either part does. -/
theorem Blames.bind {x : Except Malformed α} {f : α → Except Malformed β}
    (hx : Blames span parts x) (hf : ∀ a, x = .ok a → Blames span parts (f a)) :
    Blames span parts (x >>= f) := by
  intro cause h
  rcases bind_eq_error_iff.mp h with hfirst | ⟨a, ha, hrest⟩
  · exact hx cause hfirst
  · exact hf a ha cause hrest

/-- A part of fewer parts is a part of all. -/
theorem Blames.mono {x : Except Malformed α} (h : Blames span rest x) (hsub : rest ⊆ parts) :
    Blames span parts x :=
  fun cause hcause => List.cons_subset_cons span (List.map_subset _ hsub) (h cause hcause)

/-- An error at the place of the node blames the node. -/
theorem blames_node {cause : Malformed} (h : cause.span = span) :
    Blames span parts (.error cause : Except Malformed α) := by
  rintro _ ⟨⟩
  exact h ▸ List.mem_cons_self

/-- An error at the place of a part blames this part. -/
theorem blames_part {cause : Malformed} {o : Operand} (ho : o ∈ parts) (h : cause.span = o.span) :
    Blames span parts (.error cause : Except Malformed α) := by
  rintro _ ⟨⟩
  exact h ▸ List.mem_cons_of_mem span (List.mem_map_of_mem ho)

/-- If there is no element where one is expected, the node or the part in its place is to blame. -/
theorem blames_element (kind : NodeKind) (span : Span) (parts : Parts) :
    Blames span parts (element kind span parts) := by
  fun_cases element kind span parts with
  | case1 => exact blames_node rfl
  | case2 e parts => exact blames_ok _
  | case3 part parts => exact blames_node rfl

/-- What goes on from the last part may blame this part. -/
theorem blames_element_bind {f : Element × Parts → Except Malformed β}
    (hf : ∀ e rest, parts = .element e :: rest → Blames span parts (f (e, rest))) :
    Blames span parts (element kind span parts >>= f) :=
  (blames_element kind span parts).bind fun ⟨e, rest⟩ h => hf e rest (element_eq_ok h)

/-- If there is no name where one is expected, the node or the part in its place is to blame. -/
theorem blames_name (kind : NodeKind) (span : Span) (parts : Parts) :
    Blames span parts (name kind span parts) := by
  refine blames_element_bind fun e rest hparts => ?_
  have he : .element e ∈ parts := hparts ▸ List.mem_cons_self
  cases e with
  | reference => exact blames_ok _
  | _ => exact blames_part he rfl

/-- A sequence or a choice without elements blames its node. -/
theorem blames_joined (make : Span → Element → Element → Element) (kind : NodeKind) (span : Span)
    (parts : Parts) : Blames span parts (joined make kind span parts) := by
  simp only [joined]
  split
  · exact blames_node rfl
  · exact blames_ok _

/-- A suffix without an element in front of it blames its node or the part in its place. -/
theorem blames_suffix (span : Span) (parts : Parts) : Blames span parts (suffix span parts) := by
  fun_cases suffix span parts with
  | case1 operator place => exact blames_part List.mem_cons_self rfl
  | case2 operator place parts =>
    refine Blames.mono ?_ (List.subset_cons_self _ parts)
    exact (blames_element .suffix span parts).bind fun _ _ => blames_ok _
  | case3 parts => exact (blames_element _ span parts).bind fun _ _ => blames_ok _

/-- A repeat count behind something other than a pattern blames this part. -/
theorem blames_pattern (span : Span) (times? : Option Nat) (parts : Parts) :
    Blames span parts (pattern span times? parts) := by
  refine blames_element_bind fun e rest hparts => ?_
  have he : .element e ∈ parts := hparts ▸ List.mem_cons_self
  cases e with
  | regex => exact blames_ok _
  | _ => exact blames_part he rfl

/-- A malformed pattern blames its node or one of its parts. -/
theorem blames_regexTerm (span : Span) (parts : Parts) :
    Blames span parts (regexTerm span parts) := by
  fun_cases regexTerm span parts with
  | case1 times place parts =>
    exact (blames_pattern span (some times) parts).mono (List.subset_cons_self _ _)
  | case2 parts => exact blames_pattern span none parts

/-- A malformed repeat count blames its node or its number. -/
theorem blames_repeatCount (span : Span) (parts : Parts) :
    Blames span parts (repeatCount span parts) := by
  refine blames_element_bind fun e rest hparts => ?_
  have he : .element e ∈ parts := hparts ▸ List.mem_cons_self
  cases e with
  | number place digits =>
    dsimp only
    split
    · exact blames_ok _
    · exact blames_part he rfl
  | _ => exact blames_part he rfl

/-- A malformed property or option blames its node or one of its parts. -/
theorem blames_attributed (make : Attribute → Operand) (kind : NodeKind) (span : Span)
    (parts : Parts) : Blames span parts (attributed make kind span parts) := by
  refine blames_element_bind fun e rest hparts => ?_
  have he : .element e ∈ parts := hparts ▸ List.mem_cons_self
  have hvalue : Blames span parts (elementValue e) := by
    cases e <;> first | exact blames_ok _ | exact blames_part he rfl
  refine hvalue.bind fun _ _ => Blames.bind ?_ fun _ _ => blames_ok _
  exact (blames_name kind span rest).mono (hparts ▸ List.subset_cons_self _ _)

/-- A malformed definition blames its node or one of its parts. -/
theorem blames_definition (definitionKind : DefinitionKind) (kind : NodeKind) (span : Span)
    (parts : Parts) : Blames span parts (definition definitionKind kind span parts) := by
  have hsub : (run Operand.propertyKind parts).2 ⊆ parts :=
    List.dropWhile_subset _
  refine Blames.mono ?_ hsub
  refine blames_element_bind fun e rest hparts => ?_
  refine Blames.bind ?_ fun _ _ => blames_ok _
  exact (blames_name kind span rest).mono (hparts ▸ List.subset_cons_self _ _)

/-- Parts that are left over blame the node. -/
theorem blames_usedUp (kind : NodeKind) (span : Span) (parts unused : Parts) :
    Blames span parts (usedUp kind span unused) := by
  rw [usedUp]
  split
  · exact blames_ok _
  · exact blames_node rfl

/-- Whatever a node is read as, an error blames the node or one of its parts. -/
theorem blames_reading {read : Span → Parts → Except Malformed (Operand × Parts)}
    (h : reading? kind = some read) (span : Span) (parts : Parts) :
    Blames span parts (read span parts) := by
  cases kind <;> cases h
  case sequence | choice => exact blames_joined _ _ span parts
  case suffix => exact blames_suffix span parts
  case not | marked => exact (blames_element _ span parts).bind fun _ _ => blames_ok _
  case regexTerm => exact blames_regexTerm span parts
  case repeatCount => exact blames_repeatCount span parts
  case property | optionDecl => exact blames_attributed _ _ span parts
  case definition | tmDefinition => exact blames_definition _ _ span parts

/-- An error in a node blames the node or one of the values in it. -/
theorem blames_ofNode (kind : NodeKind) (span : Span) (values : List Operand) :
    Blames span values.reverse (ofNode kind span values) := by
  rw [ofNode]
  split
  · exact blames_ok _
  next read hread =>
    refine (blames_reading hread span _).bind fun result _ => ?_
    obtain ⟨value, rest⟩ := result
    exact (blames_usedUp kind span _ rest).bind fun _ _ => blames_ok _

variable {i j : Nat} {values : List Operand} {cause : Malformed}

/-- An error in a token is at the place of the token. -/
theorem span_of_ofToken {kind : TokenKind} {text : String}
    (h : ofToken kind text span = .error cause) : cause.span = span := by
  rw [ofToken] at h
  split at h
  · cases h
  · split at h <;> cases h
    rfl

/-- An error in a node lies inside of the node. -/
theorem within_of_ofNode (hvalues : Laid i j values)
    (h : ofNode kind ⟨i, j⟩ values = .error cause) : cause.span.Within ⟨i, j⟩ := by
  rcases List.mem_cons.mp (blames_ofNode kind ⟨i, j⟩ values cause h) with hspan | hpart
  · exact Span.within_of_eq hspan hvalues.le
  · obtain ⟨o, ho, hspan⟩ := List.mem_map.mp hpart
    exact hspan ▸ (hvalues.of_mem (List.mem_reverse.mp ho)).1

/-- The name that is reported for a second definition is in the first one. -/
theorem within_of_ofRoot (hvalues : Laid i j values)
    (h : ofRoot ⟨i, j⟩ values = .error cause) : cause.span.Within ⟨i, j⟩ := by
  rcases ofRoot_eq ⟨i, j⟩ values with ⟨cause', herror, hspan⟩ | heq
  · rw [h] at herror
    cases herror
    exact Span.within_of_eq hspan hvalues.le
  · obtain ⟨clash, hgrammar, rfl⟩ := mapError_eq_error_iff.mp (heq.symm.trans h)
    obtain ⟨first, second, ⟨before, after, hsplit, _, hfirst, _⟩, rfl⟩ :=
      Grammar.ofDefinitions_eq_error_iff.mp hgrammar
    obtain ⟨hspan, hnested⟩ := of_mem_definitions hvalues (hsplit ▸ List.mem_append_left _ hfirst)
    exact hnested.name.trans hspan

end Reading

namespace Reduction

open Peg.Operand (Laid)

variable {base : Operands} {s : State} {i j : Nat} {values : List Operand} {cause : Malformed}

/-- An error that arises when a node is left is in the node. -/
theorem within_of_leave {kind : NodeKind} (hbase : base.Leveled)
    (hs : s.stack = base.above values.reverse) (hvalues : Laid i j values)
    (h : leave kind ⟨i, j⟩ s = .error cause) : cause.span.Within ⟨i, j⟩ := by
  by_cases hkind : kind = .root
  · subst hkind
    rcases bind_eq_error_iff.mp h with hroot | ⟨_, _, hdone⟩
    · rw [hs, leaveRoot_above hbase, List.reverse_reverse] at hroot
      exact Reading.within_of_ofRoot hvalues (map_eq_error_iff.mp hroot)
    · cases hdone
  · have hleave := leave_above hkind ⟨i, j⟩ { s with stack := base } hbase values.reverse
    dsimp only at hleave
    rw [← hs, h, List.reverse_reverse] at hleave
    exact Reading.within_of_ofNode hvalues (map_eq_error_iff.mp hleave.symm)

mutual

/-- An error in a walk through a tree is in the tree. -/
theorem within_of_walk (start : Nat) : ∀ (t : SyntaxTree) (s : State) {cause : Malformed},
    s.stack.Leveled → walk start t s = .error cause → cause.span.Within (t.spanFrom start)
  | .token kind text, s, cause, _, h => by
    rw [walk, shift_ofToken] at h
    rcases bind_eq_error_iff.mp h with hvalue | ⟨_, _, hdone⟩
    · have hspan := Reading.span_of_ofToken (map_eq_error_iff.mp hvalue)
      exact Span.within_of_eq hspan (Nat.le_add_right ..)
    · cases hdone
  | .node kind children, s, cause, hs, h => by
    rw [walk] at h
    rcases bind_eq_error_iff.mp h with hinside | ⟨inside, hinside, hleave⟩
    · exact within_of_walkAll start children _ (hs.above []) hinside
    · obtain ⟨values, hvalues, hstack⟩ := exists_values_of_walkAll start children
        { s with stack := s.stack.enter } inside (hs.above []) hinside
      rw [ScopedStack.enter_eq_above, ScopedStack.pushAll_above, List.append_nil] at hstack
      have hlaid := Reading.laid_valuesOfAll start _ hvalues
      rw [SyntaxTree.widthOfAll_blankRootsOfAll] at hlaid
      exact within_of_leave hs hstack hlaid hleave

/-- An error on the way through trees in a row lies within their texts. -/
theorem within_of_walkAll (start : Nat) : ∀ (ts : List SyntaxTree) (s : State)
    {cause : Malformed}, s.stack.Leveled → walkAll start ts s = .error cause →
      cause.span.Within ⟨start, start + SyntaxTree.widthOfAll ts⟩
  | [], _, _, _, h => nomatch h
  | t :: ts, s, cause, hs, h => by
    rw [walkAll] at h
    rw [SyntaxTree.widthOfAll, ← Nat.add_assoc]
    rcases bind_eq_error_iff.mp h with hfirst | ⟨middle, hfirst, hrest⟩
    · have hspan := within_of_walk start t s hs hfirst
      exact ⟨hspan.start_le, hspan.le, Nat.le_trans hspan.le_stop (Nat.le_add_right ..)⟩
    · obtain ⟨first, _, hmiddle⟩ := exists_values_of_walk start t s middle hs hfirst
      have hspan := within_of_walkAll (start + t.width) ts middle (hmiddle ▸ hs.pushAll first) hrest
      exact ⟨Nat.le_trans (Nat.le_add_right ..) hspan.start_le, hspan.le, hspan.le_stop⟩

end

end Reduction

namespace Grammar

/-- A grammar lies in its tree. Definitions are one behind the other, and each has its name, its
body and its properties inside of it. So has every part of a body its own parts, and where these are
two, the left one is in front of the right one. If a tree makes no grammar, the error is inside of
the tree. -/
theorem spans_nested (tree : SyntaxTree) :
    (∀ g, ofTree tree = .ok g → g.Nested (tree.spanFrom 0)) ∧
      ∀ cause, ofTree tree = .error cause → cause.span.Within (tree.spanFrom 0) := by
  constructor
  · intro g h
    obtain ⟨children, rfl⟩ := exists_root_of_ofTree h
    obtain ⟨values, hvalues, hroot⟩ := bind_eq_ok_iff.mp (Reduction.grammar_of_ofTree h)
    have hlaid := Reading.laid_valuesOfAll 0 _ hvalues
    rw [SyntaxTree.widthOfAll_blankRootsOfAll, Nat.zero_add] at hlaid
    rw [SyntaxTree.widthOfAll_blankRootsOfAll] at hroot
    rw [SyntaxTree.spanFrom, SyntaxTree.width, Nat.zero_add]
    exact Reading.nested_of_ofRoot hlaid hroot
  · intro cause h
    rw [ofTree] at h
    split at h
    · rcases bind_eq_error_iff.mp h with hwalk | ⟨s, _, hresult⟩
      · exact Reduction.within_of_walk 0 tree _ ScopedStack.leveled_empty hwalk
      · cases hresult
    · cases h
      exact Span.within_of_eq rfl (Nat.le_add_right ..)

end Grammar

end Peg
