import Peg.Proofs.Grammar.NothingLost

/-!
# The places of what is read

The values that are read from a syntax tree lie in the text as the parts of the tree do: a value is
inside of the place of its node, one value is behind the other, and within each value the same holds
of what it is made of. Three rules give a value its place: a token has its own, a node has that of
all its text, and what is put together from markers or elements in a row covers all of these.
-/

namespace Peg

namespace Span

/-- The span goes forward, and lies inside of another one. -/
structure Within (inner outer : Span) : Prop where
  start_le : outer.start ≤ inner.start
  le : inner.start ≤ inner.stop
  le_stop : inner.stop ≤ outer.stop

/-- The span ends where the other one starts, or before. -/
def Before (a b : Span) : Prop :=
  a.stop ≤ b.start

/-- What lies inside of a span lies inside of every span around it. -/
theorem Within.trans {a b c : Span} (h : a.Within b) (h' : b.Within c) : a.Within c :=
  ⟨Nat.le_trans h'.start_le h.start_le, h.le, Nat.le_trans h.le_stop h'.le_stop⟩

/-- A span that goes forward lies inside of itself. -/
theorem within_of_eq {a b : Span} (h : a = b) (hle : b.start ≤ b.stop) : a.Within b := by
  subst h
  exact ⟨Nat.le_refl _, hle, Nat.le_refl _⟩

/-- Spans in order are covered from the start of the first to the stop of the last. -/
theorem cover_of_before {a b : Span} (ha : a.start ≤ a.stop) (hab : a.Before b)
    (hb : b.start ≤ b.stop) : a.cover b = ⟨a.start, b.stop⟩ := by
  have hstart : a.start ≤ b.start := Nat.le_trans ha hab
  have hstop : a.stop ≤ b.stop := Nat.le_trans hab hb
  rw [cover, Nat.min_eq_left hstart, Nat.max_eq_right hstop]

end Span

/-- Inside of the element are its parts, in order and without overlap, and so on within each. -/
inductive Element.Nested : Element → Prop
  | mk {e : Element} (within : ∀ part ∈ e.children, part.span.Within e.span)
      (ordered : e.children.Pairwise fun left right => left.span.Before right.span)
      (nested : ∀ part ∈ e.children, part.Nested) : e.Nested

/-- Inside of the attribute is its name. -/
def Attribute.Nested (a : Attribute) : Prop :=
  a.nameSpan.Within a.span

/-- Inside of the definition are its name, its body and its properties. -/
structure Definition.Nested (d : Definition) : Prop where
  name : d.nameSpan.Within d.span
  body : d.body.span.Within d.span
  parts : d.body.Nested
  properties : ∀ a ∈ d.properties, a.span.Within d.span ∧ a.Nested

/-- Inside of the span are the definitions and the options of the grammar, the definitions in order
and without overlap. -/
structure Grammar.Nested (g : Grammar) (span : Span) : Prop where
  definitions : ∀ d ∈ g.definitions, d.span.Within span ∧ d.Nested
  ordered : g.definitions.Pairwise fun d later => d.span.Before later.span
  options : ∀ a ∈ g.options, a.span.Within span ∧ a.Nested

namespace Attributes

/-- Inserting an attribute brings in no other one. -/
theorem mem_of_mem_insert {a b : Attribute} {attributes : Attributes}
    (h : b ∈ insert a attributes) : b = a ∨ b ∈ attributes := by
  induction attributes with
  | nil => exact .inl (List.mem_singleton.mp h)
  | cons c attributes ih =>
    rw [insert] at h
    split at h
    · exact (List.mem_cons.mp h).imp_right (List.mem_cons_of_mem c)
    · rcases List.mem_cons.mp h with rfl | h
      · exact .inr List.mem_cons_self
      · exact (ih h).imp_right (List.mem_cons_of_mem c)

/-- What is among the attributes of a grammar was written there. -/
theorem mem_of_mem_ofList {a : Attribute} {written : List Attribute} (h : a ∈ ofList written) :
    a ∈ written := by
  induction written using List.reverseRecOn with
  | nil => cases h
  | append_singleton written b ih =>
    rw [ofList, List.foldl_concat] at h
    rcases mem_of_mem_insert h with rfl | h
    · exact List.mem_concat_self
    · exact List.mem_append_left _ (ih h)

end Attributes

namespace Operand

/-- The place of an operand. -/
def span : Operand → Span
  | .element e => e.span
  | .marker _ span | .operator _ span | .repeatCount _ span => span
  | .property a | .option a => a.span
  | .definition d => d.span

/-- Everything in the operand lies where it belongs. -/
def Nested : Operand → Prop
  | .element e => e.Nested
  | .marker _ _ | .operator _ _ | .repeatCount _ _ => True
  | .property a | .option a => a.Nested
  | .definition d => d.Nested

/-- Operands lie between two offsets, one behind the other. -/
inductive Laid : Nat → Nat → List Operand → Prop
  | nil {i j : Nat} (h : i ≤ j) : Laid i j []
  | cons {i j : Nat} {o : Operand} {os : List Operand} (hstart : i ≤ o.span.start)
      (hle : o.span.start ≤ o.span.stop) (hnested : o.Nested) (hos : Laid o.span.stop j os) :
      Laid i j (o :: os)

namespace Laid

variable {i j k : Nat} {o : Operand} {os os' : List Operand}

/-- Operands lie between offsets that go forward. -/
theorem le (h : Laid i j os) : i ≤ j := by
  induction h with
  | nil h => exact h
  | cons hstart hle _ _ ih => exact Nat.le_trans hstart (Nat.le_trans hle ih)

/-- Operands that lie one behind the other up to an offset can be followed by those that lie behind
it. -/
theorem append (h : Laid i j os) (h' : Laid j k os') : Laid i k (os ++ os') := by
  induction h with
  | nil h =>
    cases h' with
    | nil h' => exact .nil (Nat.le_trans h h')
    | cons hstart hle hnested hos => exact .cons (Nat.le_trans h hstart) hle hnested hos
  | cons hstart hle hnested _ ih => exact .cons hstart hle hnested (ih h')

/-- Somewhere between the first operands and the later ones there is an offset that parts them. -/
theorem exists_of_append (h : Laid i k (os ++ os')) : ∃ j, Laid i j os ∧ Laid j k os' := by
  induction os generalizing i with
  | nil => exact ⟨i, .nil (Nat.le_refl i), h⟩
  | cons o os ih =>
    cases h with
    | cons hstart hle hnested hos =>
      obtain ⟨j, hfront, hback⟩ := ih hos
      exact ⟨j, .cons hstart hle hnested hfront, hback⟩

/-- A single operand lies between two offsets if its span does. -/
theorem singleton (hspan : o.span.Within ⟨i, j⟩) (hnested : o.Nested) : Laid i j [o] :=
  .cons hspan.start_le hspan.le hnested (.nil hspan.le_stop)

/-- Each of the operands lies between the two offsets. -/
theorem of_mem (h : Laid i j os) (ho : o ∈ os) : o.span.Within ⟨i, j⟩ ∧ o.Nested := by
  induction h with
  | nil => cases ho
  | cons hstart hle hnested hos ih =>
    rcases List.mem_cons.mp ho with rfl | ho
    · exact ⟨⟨hstart, hle, hos.le⟩, hnested⟩
    · obtain ⟨hspan, hnested⟩ := ih ho
      exact ⟨⟨Nat.le_trans hstart (Nat.le_trans hle hspan.start_le), hspan.le, hspan.le_stop⟩,
        hnested⟩

/-- Of two operands that are laid out, the first one ends before the second one starts. -/
theorem pairwise (h : Laid i j os) :
    os.Pairwise fun first second => first.span.Before second.span := by
  induction h with
  | nil => exact .nil
  | cons _ _ _ hos ih => exact .cons (fun o ho => (hos.of_mem ho).1.start_le) ih

end Laid

end Operand

open Operand (Laid)

namespace Element

/-- There is nothing to lie inside of an element without parts. -/
theorem nested_of_children_eq_nil {e : Element} (h : e.children = []) : e.Nested :=
  .mk (by simp [h]) (by simp [h]) (by simp [h])

/-- An element has its only part inside. -/
theorem nested_of_child {e body : Element} (h : e.children = [body])
    (hspan : body.span.Within e.span) (hbody : body.Nested) : e.Nested :=
  .mk (by simp [h, hspan]) (by simp [h]) (by simp [h, hbody])

/-- An element has both parts inside, the left one before the right one. -/
theorem nested_of_pair {e left right : Element} (h : e.children = [left, right])
    (hleft : left.span.Within e.span) (hright : right.span.Within e.span)
    (hbefore : left.span.Before right.span) (hleft' : left.Nested) (hright' : right.Nested) :
    e.Nested :=
  .mk (by simp [h, hleft, hright]) (by simp [h, hbefore]) (by simp [h, hleft', hright'])

end Element

namespace Reading

open Reduction

variable {i j k : Nat} {parts : Parts} {values : List Operand} {value : Operand}

/-- An element that covers a span and an element behind the span. -/
theorem laid_cover {a : Span} {e covering : Element} (hstart : i ≤ a.start)
    (hle : a.start ≤ a.stop) (he : Laid a.stop j [.element e])
    (hspan : covering.span = a.cover e.span)
    (hnested : a.Within covering.span → e.span.Within covering.span → a.Before e.span → e.Nested →
      covering.Nested) : Laid i j [.element covering] := by
  obtain ⟨⟨hbefore, hle', hstop⟩, he⟩ := he.of_mem List.mem_cons_self
  replace hspan : covering.span = ⟨a.start, e.span.stop⟩ :=
    hspan.trans (Span.cover_of_before hle hbefore hle')
  have hfront : a.Within covering.span :=
    hspan ▸ ⟨Nat.le_refl _, hle, Nat.le_trans hbefore hle'⟩
  have hback : e.span.Within covering.span :=
    hspan ▸ ⟨Nat.le_trans hle hbefore, hle', Nat.le_refl _⟩
  have hwhole : a.start ≤ e.span.stop := Nat.le_trans hle (Nat.le_trans hbefore hle')
  refine .singleton ?_ (hnested hfront hback hbefore he)
  rw [Operand.span, hspan]
  exact ⟨hstart, hwhole, hstop⟩

/-- Elements in a row are joined to one that covers them. -/
theorem laid_join {make : Span → Element → Element → Element}
    (hspan : ∀ span left right, (make span left right).span = span)
    (hchildren : ∀ span left right, (make span left right).children = [left, right])
    {others : List Element} {last : Element}
    (h : Laid i j ((others ++ [last]).map .element)) :
    Laid i j [.element
      (others.foldr (fun e joined => make (e.span.cover joined.span) e joined) last)] := by
  induction others generalizing i with
  | nil => exact h
  | cons e others ih =>
    cases h with
    | cons hstart hle he hrest =>
      refine laid_cover hstart hle (ih hrest) (hspan _ _ _) fun hleft hright hbefore hjoined => ?_
      exact Element.nested_of_pair (hchildren _ _ _) hleft hright hbefore he hjoined

/-- Markers are put around an element so that it covers them, whatever stands in between. -/
theorem laid_wrap {markers : List (Marker × Span)} {body : Element}
    (hmarkers : Laid i k (markers.map fun m => .marker m.1 m.2))
    (hbody : Laid k j [.element body]) : Laid i j [.element (wrap markers body)] := by
  induction markers generalizing i with
  | nil => exact hmarkers.append hbody
  | cons m markers ih =>
    cases hmarkers with
    | cons hstart hle _ hrest =>
      refine laid_cover hstart hle (ih hrest) rfl fun _ hspan _ hnested => ?_
      exact Element.nested_of_child rfl hspan hnested

/-- An element at the place of a node, around an element in the node. -/
theorem laid_around {e body : Element} (hspan : e.span = ⟨i, j⟩) (hchildren : e.children = [body])
    (hbody : body.span.Within ⟨i, j⟩) (hnested : body.Nested) : Laid i j [.element e] := by
  have hle : i ≤ j := Nat.le_trans hbody.start_le (Nat.le_trans hbody.le hbody.le_stop)
  exact .singleton (Span.within_of_eq hspan hle)
    (Element.nested_of_child hchildren (hspan ▸ hbody) hnested)

/-- An element with a suffix lies where its node lies, with its body inside. -/
theorem laid_suffix (hparts : Laid i j parts.reverse)
    (h : suffix ⟨i, j⟩ parts = .ok (value, [])) : Laid i j [value] := by
  rcases suffix_eq_ok h with ⟨operator, place, body, rfl, rfl⟩ | ⟨body, rfl, rfl⟩
  · obtain ⟨hspan, hnested⟩ := hparts.of_mem (o := .element body) (by simp)
    cases operator <;> exact laid_around rfl rfl hspan hnested
  · exact hparts

/-- A marked element lies where its node lies, with the element inside. -/
theorem laid_marked (hparts : Laid i j parts.reverse)
    (h : marked ⟨i, j⟩ parts = .ok (value, [])) : Laid i j [value] := by
  obtain ⟨markers, body, rfl, rfl⟩ := marked_eq_ok h
  simp only [List.append_nil, List.reverse_cons, List.map_reverse, List.reverse_reverse] at hparts
  obtain ⟨k, hmarkers, hbody⟩ := hparts.exists_of_append
  exact laid_wrap hmarkers hbody

/-- A pattern with a repeat count lies where its node lies. -/
theorem laid_regexTerm (hparts : Laid i j parts.reverse)
    (h : regexTerm ⟨i, j⟩ parts = .ok (value, [])) : Laid i j [value] := by
  have hself := Span.within_of_eq (a := ⟨i, j⟩) rfl hparts.le
  rcases regexTerm_eq_ok h with ⟨_, _, _, _, _, _, rfl⟩ | ⟨_, _, _, _, rfl⟩
  · exact .singleton hself (Element.nested_of_children_eq_nil rfl)
  · exact .singleton hself (Element.nested_of_children_eq_nil rfl)

/-- The place of an attribute is that of its node, and its name is in the node. -/
theorem nested_of_attributed {make : Attribute → Operand} {kind : NodeKind}
    (hparts : Laid i j parts.reverse)
    (h : attributed make kind ⟨i, j⟩ parts = .ok (value, [])) :
    ∃ a, value = make a ∧ a.span.Within ⟨i, j⟩ ∧ a.Nested := by
  obtain ⟨e, a, rfl, _, hspan, rfl⟩ := attributed_eq_ok h
  have hname := (hparts.of_mem (o := .element (.reference a.nameSpan a.name)) (by simp)).1
  refine ⟨a, rfl, Span.within_of_eq hspan hparts.le, ?_⟩
  rw [Attribute.Nested, hspan]
  exact hname

/-- A definition lies where its node lies, with its name, its body and its properties inside. -/
theorem laid_definition {definitionKind : DefinitionKind} {kind : NodeKind}
    (hparts : Laid i j parts.reverse)
    (h : definition definitionKind kind ⟨i, j⟩ parts = .ok (value, [])) : Laid i j [value] := by
  obtain ⟨markers, r, body, properties, rfl, rfl⟩ := definition_eq_ok h
  -- The latest part comes first among the parts, and last in the text.
  replace hparts : Laid i j (markers.map (fun m => .marker m.1 m.2) ++
      ([.element (.reference r.span r.name)] ++
        ([.element body] ++ properties.map .property))) := by
    simpa using hparts
  obtain ⟨_, hmarkers, hrest⟩ := hparts.exists_of_append
  obtain ⟨_, hname, hrest⟩ := hrest.exists_of_append
  obtain ⟨_, hbody, hproperties⟩ := hrest.exists_of_append
  have hwrapped : Laid i j [.element (wrap markers body)] :=
    laid_wrap hmarkers ((Laid.nil hname.le).append (hbody.append (.nil hproperties.le)))
  have hproperty (a : Attribute) (ha : a ∈ Attributes.ofList properties) :
      a.span.Within ⟨i, j⟩ ∧ a.Nested :=
    hparts.of_mem (o := .property a) (by simp [Attributes.mem_of_mem_ofList ha])
  have hself := Span.within_of_eq (a := ⟨i, j⟩) rfl hparts.le
  obtain ⟨hspan, hnested⟩ := hwrapped.of_mem List.mem_cons_self
  have hreference := (hparts.of_mem (o := .element (.reference r.span r.name)) (by simp)).1
  exact .singleton hself ⟨hreference, hspan, hnested, hproperty⟩

/-- Whatever a node is read as lies where the node lies, with its parts inside. -/
theorem laid_reading {kind : NodeKind} {read : Span → Parts → Except Malformed (Operand × Parts)}
    (hread : reading? kind = some read) (hparts : Laid i j parts.reverse)
    (h : read ⟨i, j⟩ parts = .ok (value, [])) : Laid i j [value] := by
  have hself := Span.within_of_eq (a := ⟨i, j⟩) rfl hparts.le
  cases kind <;> cases hread
  case sequence | choice =>
    obtain ⟨others, last, rfl, rfl⟩ := joined_eq_ok h
    exact laid_join (fun _ _ _ => rfl) (fun _ _ _ => rfl) (by simpa using hparts)
  case suffix => exact laid_suffix hparts h
  case not =>
    obtain ⟨body, rfl, rfl⟩ := negation_eq_ok h
    obtain ⟨hspan, hnested⟩ := hparts.of_mem List.mem_cons_self
    exact laid_around rfl rfl hspan hnested
  case marked => exact laid_marked hparts h
  case regexTerm => exact laid_regexTerm hparts h
  case repeatCount =>
    obtain ⟨_, _, _, _, _, rfl⟩ := repeatCount_eq_ok h
    exact .singleton hself trivial
  case property | optionDecl =>
    obtain ⟨a, rfl, hspan, hnested⟩ := nested_of_attributed hparts h
    exact .singleton hspan hnested
  case definition | tmDefinition => exact laid_definition hparts h

/-- The values of a node lie in the node if those of its parts do. -/
theorem laid_ofNode {kind : NodeKind} {own : List Operand} (hvalues : Laid i j values)
    (h : ofNode kind ⟨i, j⟩ values = .ok own) : Laid i j own := by
  rw [ofNode] at h
  split at h
  · cases h
    exact hvalues
  next read hread =>
    obtain ⟨⟨value, rest⟩, hvalue, h⟩ := bind_eq_ok_iff.mp h
    obtain ⟨_, hused, hown⟩ := bind_eq_ok_iff.mp h
    obtain rfl := eq_nil_of_usedUp hused
    cases hown
    exact laid_reading hread (by rwa [List.reverse_reverse]) hvalue

/-- The value of a token has the place of the token. -/
theorem nested_of_tokenValue? {kind : TokenKind} {text : String} {span : Span}
    (h : tokenValue? kind text span = some value) : value.span = span ∧ value.Nested := by
  cases kind <;> cases h
  case ident | string | regex | number | true | false =>
    exact ⟨rfl, Element.nested_of_children_eq_nil rfl⟩
  all_goals exact ⟨rfl, trivial⟩

/-- What a token means lies where the token lies. -/
theorem laid_ofToken {kind : TokenKind} {text : String} {own : List Operand} (hle : i ≤ j)
    (h : ofToken kind text ⟨i, j⟩ = .ok own) : Laid i j own := by
  rw [ofToken] at h
  split at h
  next value hvalue =>
    cases h
    obtain ⟨hspan, hnested⟩ := nested_of_tokenValue? hvalue
    exact .singleton (Span.within_of_eq hspan hle) hnested
  · split at h <;> cases h
    exact .nil hle

mutual

/-- The values of a tree lie in the tree. -/
theorem laid_values (start : Nat) : ∀ (t : SyntaxTree) {own : List Operand},
    Reading.values start t = .ok own → Laid start (start + t.width) own
  | .token kind text, _, h => by
    rw [Reading.values] at h
    exact laid_ofToken (Nat.le_add_right ..) h
  | .node kind children, _, h => by
    rw [Reading.values] at h
    obtain ⟨parts, hparts, hown⟩ := bind_eq_ok_iff.mp h
    exact laid_ofNode (laid_valuesOfAll start children hparts) hown

/-- What trees in a row mean is laid out along their texts. -/
theorem laid_valuesOfAll (start : Nat) : ∀ (ts : List SyntaxTree) {own : List Operand},
    valuesOfAll start ts = .ok own → Laid start (start + SyntaxTree.widthOfAll ts) own
  | [], _, h => by
    cases h
    exact .nil (Nat.le_refl _)
  | t :: ts, _, h => by
    rw [valuesOfAll] at h
    obtain ⟨first, hfirst, h⟩ := bind_eq_ok_iff.mp h
    obtain ⟨rest, hrest, hown⟩ := bind_eq_ok_iff.mp h
    cases hown
    rw [SyntaxTree.widthOfAll, ← Nat.add_assoc]
    exact (laid_values start t hfirst).append (laid_valuesOfAll (start + t.width) ts hrest)

end

/-- The definitions among the values of a root lie in the root. -/
theorem of_mem_definitions {d : Definition} (hvalues : Laid i j values)
    (hd : d ∈ values.filterMap Operand.definition?) : d.span.Within ⟨i, j⟩ ∧ d.Nested := by
  obtain ⟨o, ho, hsome⟩ := List.mem_filterMap.mp hd
  cases o <;> cases hsome
  exact hvalues.of_mem ho

/-- Definitions that are laid out do not overlap. -/
theorem pairwise_definitions (hvalues : Laid i j values) :
    (values.filterMap Operand.definition?).Pairwise fun d later =>
      d.span.Before later.span := by
  refine hvalues.pairwise.filterMap _ fun o o' hbefore d hd d' hd' => ?_
  cases o <;> cases hd
  cases o' <;> cases hd'
  exact hbefore

/-- The grammar of a root lies in the root if the values in the root do. -/
theorem nested_of_ofRoot {g : Grammar} (hvalues : Laid i j values)
    (h : ofRoot ⟨i, j⟩ values = .ok g) : g.Nested ⟨i, j⟩ := by
  obtain ⟨hdefinitions, hoptions⟩ := ofRoot_eq_ok h
  refine ⟨fun d hd => ?_, ?_, fun a ha => ?_⟩
  · rw [hdefinitions] at hd
    obtain ⟨id, hid, rfl⟩ := List.mem_mapIdx.mp hd
    obtain ⟨hspan, hnested⟩ := of_mem_definitions hvalues (List.getElem_mem hid)
    exact ⟨hspan, hnested.name, hnested.body, hnested.parts, hnested.properties⟩
  · rw [← List.pairwise_map, hdefinitions, Grammar.map_number fun _ _ => rfl, List.pairwise_map]
    exact pairwise_definitions hvalues
  · rw [hoptions] at ha
    obtain ⟨o, ho, hsome⟩ := List.mem_filterMap.mp (Attributes.mem_of_mem_ofList ha)
    cases o <;> cases hsome
    exact hvalues.of_mem ho

end Reading

end Peg
