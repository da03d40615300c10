import Peg.Proofs.Grammar.Compositionality

/-!
# What a node reads

A node with a value of its own reads this value from its last parts. For each kind of node it is
said here which parts these are and what the value is then. Definitions and options are never among
the parts, and a value that is a mere name, text, number or truth value comes from a single part,
which is that value already.
-/

namespace Peg

/-- Whether a node of the kind stands for a definition or an option. -/
def NodeKind.isDeclaration : NodeKind → Bool
  | .definition | .tmDefinition | .optionDecl => true
  | _ => false

namespace Operand

/-- Whether the operand is a definition or an option. -/
def isDeclaration : Operand → Bool
  | .definition _ | .option _ => true
  | _ => false

/-- The value of an operand that may stand for the value of an option. -/
def value? : Operand → Option Value
  | .element (.text _ content) => some (.text content)
  | .element (.number _ digits) => some (.number digits)
  | .element (.boolean _ b) => some (.boolean b)
  | .element (.reference _ name) => some (.reference name)
  | _ => none

/-- A name may stand for the value of an option. -/
@[simp] theorem value?_reference (span : Span) (name : String) :
    (Operand.element (.reference span name)).value? = some (.reference name) :=
  rfl

/-- What an element is extracted from is the operand of this element. -/
theorem element_of_extract? {o : Operand} {e : Element}
    (h : elementKind.extract? o = some e) : o = .element e := by
  cases o <;> cases h
  rfl

/-- What a marker is extracted from is the operand of this marker. -/
theorem marker_of_extract? {o : Operand} {m : Marker × Span}
    (h : markerKind.extract? o = some m) : o = .marker m.1 m.2 := by
  cases o <;> cases h
  rfl

/-- What a property is extracted from is the operand of this property. -/
theorem property_of_extract? {o : Operand} {a : Attribute}
    (h : propertyKind.extract? o = some a) : o = .property a := by
  cases o <;> cases h
  rfl

end Operand

namespace Reading

open Reduction

variable {α : Type} {kind : NodeKind} {span : Span} {parts rest : Parts}

/-- The definitions and options among the parts. -/
def declared (parts : Parts) : Parts :=
  parts.filter Operand.isDeclaration

/-- An element is read from the first of the parts. -/
theorem element_eq_ok {e : Element} (h : element kind span parts = .ok (e, rest)) :
    parts = .element e :: rest := by
  cases parts with
  | nil => cases h
  | cons part parts =>
    cases part <;> cases h
    rfl

/-- A name is read from a reference that is the first of the parts. -/
theorem name_eq_ok {r : Reference} (h : name kind span parts = .ok (r, rest)) :
    parts = .element (.reference r.span r.name) :: rest := by
  obtain ⟨⟨e, after⟩, he, h⟩ := bind_eq_ok_iff.mp h
  cases e <;> cases h
  exact element_eq_ok he

/-- A run and what is before it make up all parts. -/
theorem map_run_append {operands : ItemKind Operand α} (hkind : operands.Faithful)
    {make : α → Operand} (hmake : ∀ {o a}, operands.extract? o = some a → o = make a)
    (parts : Parts) :
    (run operands parts).1.reverse.map make ++ (run operands parts).2 = parts := by
  simp only [run, List.reverse_reverse]
  induction parts with
  | nil => rfl
  | cons part parts ih =>
    cases hpart : operands.extract? part with
    | none => simp [hkind part, hpart]
    | some a =>
      have hadmits : operands.admits part = true := by simp [hkind part, hpart]
      simp [hadmits, hpart, ih, ← hmake hpart]

/-- The elements that come last. -/
theorem run_element_append (parts : Parts) :
    (run Operand.elementKind parts).1.reverse.map Operand.element ++
      (run Operand.elementKind parts).2 = parts :=
  map_run_append faithful_elementKind Operand.element_of_extract? parts

/-- The markers that come last. -/
theorem run_marker_append (parts : Parts) :
    (run Operand.markerKind parts).1.reverse.map (fun m => .marker m.1 m.2) ++
      (run Operand.markerKind parts).2 = parts :=
  map_run_append faithful_markerKind Operand.marker_of_extract? parts

/-- The properties that come last. -/
theorem run_property_append (parts : Parts) :
    (run Operand.propertyKind parts).1.reverse.map Operand.property ++
      (run Operand.propertyKind parts).2 = parts :=
  map_run_append faithful_propertyKind Operand.property_of_extract? parts

variable {value : Operand} {declares : Bool}

/-- Elements in a row are joined, the last ones first. -/
theorem joined_eq_ok {make : Span → Element → Element → Element}
    (h : joined make kind span parts = .ok (value, rest)) :
    ∃ others last, parts = (others ++ [last]).reverse.map Operand.element ++ rest ∧
      value = .element
        (others.foldr (fun e joined => make (e.span.cover joined.span) e joined) last) := by
  have hparts := run_element_append parts
  simp only [joined] at h
  split at h
  · cases h
  next last hlast =>
    cases h
    obtain ⟨others, hothers⟩ := List.getLast?_eq_some_iff.mp hlast
    refine ⟨others, last, ?_, ?_⟩
    · rw [← hothers, hparts]
    · rw [hothers, List.dropLast_concat]

/-- An operator is applied to the element in front of it. -/
theorem suffix_eq_ok (h : suffix span parts = .ok (value, rest)) :
    (∃ operator place body, parts = .operator operator place :: .element body :: rest ∧
      value = .element (operator.apply span body)) ∨
    ∃ body, parts = .element body :: rest ∧ value = .element body := by
  revert h
  fun_cases suffix span parts with
  | case1 operator place =>
    intro h
    cases h
  | case2 operator place parts =>
    intro h
    obtain ⟨⟨body, after⟩, hbody, hresult⟩ := bind_eq_ok_iff.mp h
    cases hresult
    exact .inl ⟨operator, place, body, by rw [element_eq_ok hbody], rfl⟩
  | case3 parts =>
    intro h
    obtain ⟨⟨body, after⟩, hbody, hresult⟩ := bind_eq_ok_iff.mp h
    cases hresult
    exact .inr ⟨body, element_eq_ok hbody, rfl⟩

/-- A lookahead is read from its body. -/
theorem negation_eq_ok (h : negation span parts = .ok (value, rest)) :
    ∃ body, parts = .element body :: rest ∧ value = .element (.not span body) := by
  obtain ⟨⟨body, after⟩, hbody, hresult⟩ := bind_eq_ok_iff.mp h
  cases hresult
  exact ⟨body, element_eq_ok hbody, rfl⟩

/-- All markers in front of an element are put around it. -/
theorem marked_eq_ok (h : marked span parts = .ok (value, rest)) :
    ∃ markers body,
      parts = .element body :: (markers.reverse.map (fun m => .marker m.1 m.2) ++ rest) ∧
        value = .element (wrap markers body) := by
  obtain ⟨⟨body, after⟩, hbody, hresult⟩ := bind_eq_ok_iff.mp h
  have hmarkers := run_marker_append after
  cases hresult
  refine ⟨(run Operand.markerKind after).1, body, ?_, rfl⟩
  rw [element_eq_ok hbody]
  exact congrArg (Operand.element body :: ·) hmarkers.symm

/-- A pattern is made of a pattern, and the count is put in place of its own if there is one. -/
theorem pattern_eq_ok {times? : Option Nat} (h : pattern span times? parts = .ok (value, rest)) :
    ∃ place source times, parts = .element (.regex place source times) :: rest ∧
      value = .element (.regex span source (times?.getD times)) := by
  obtain ⟨⟨body, after⟩, hbody, hresult⟩ := bind_eq_ok_iff.mp h
  rw [element_eq_ok hbody]
  cases body <;> cases hresult
  exact ⟨_, _, _, rfl, rfl⟩

/-- A pattern is read from a pattern, with the repeat count behind it or else with its own. -/
theorem regexTerm_eq_ok (h : regexTerm span parts = .ok (value, rest)) :
    (∃ count place place' source times,
      parts = .repeatCount count place :: .element (.regex place' source times) :: rest ∧
        value = .element (.regex span source count)) ∨
    ∃ place source times, parts = .element (.regex place source times) :: rest ∧
      value = .element (.regex span source times) := by
  revert h
  fun_cases regexTerm span parts with
  | case1 count place parts =>
    intro h
    obtain ⟨place', source, times, rfl, rfl⟩ := pattern_eq_ok h
    exact .inl ⟨count, place, place', source, times, rfl, rfl⟩
  | case2 parts =>
    intro h
    exact .inr (pattern_eq_ok h)

/-- A repeat count is read from a number. -/
theorem repeatCount_eq_ok (h : repeatCount span parts = .ok (value, rest)) :
    ∃ place digits count, parts = .element (.number place digits) :: rest ∧
      Text.Decimal.value32? digits = some count ∧ value = .repeatCount count span := by
  obtain ⟨⟨e, after⟩, he, hresult⟩ := bind_eq_ok_iff.mp h
  rw [element_eq_ok he]
  cases e with
  | number place digits =>
    simp only at hresult
    split at hresult <;> cases hresult
    next count hcount => exact ⟨place, digits, count + 1, rfl, hcount, rfl⟩
  | _ => cases hresult

/-- An option or a property is read from a name and a value. -/
theorem attributed_eq_ok {make : Attribute → Operand}
    (h : attributed make kind span parts = .ok (value, rest)) :
    ∃ e a, parts = .element e :: .element (.reference a.nameSpan a.name) :: rest ∧
      elementValue e = .ok a.value ∧ a.span = span ∧ value = make a := by
  obtain ⟨⟨e, after⟩, he, h⟩ := bind_eq_ok_iff.mp h
  obtain ⟨content, hcontent, h⟩ := bind_eq_ok_iff.mp h
  obtain ⟨⟨r, last⟩, hname, hresult⟩ := bind_eq_ok_iff.mp h
  cases hresult
  refine ⟨e, ⟨r.name, r.span, content, span⟩, ?_, hcontent, rfl, rfl⟩
  rw [element_eq_ok he, name_eq_ok hname]

/-- A definition is read from markers, its name, its body and its properties. -/
theorem definition_eq_ok {definitionKind : DefinitionKind}
    (h : definition definitionKind kind span parts = .ok (value, rest)) :
    ∃ (markers : List (Marker × Span)) (r : Reference) (body : Element)
      (properties : List Attribute),
      parts = properties.reverse.map Operand.property ++ .element body ::
        .element (.reference r.span r.name) ::
          (markers.reverse.map (fun m => .marker m.1 m.2) ++ rest) ∧
      value = .definition ⟨0, definitionKind, r.name, r.span, wrap markers body,
        Attributes.ofList properties, span⟩ := by
  obtain ⟨⟨body, beforeBody⟩, hbody, h⟩ := bind_eq_ok_iff.mp h
  obtain ⟨⟨r, beforeName⟩, hname, hresult⟩ := bind_eq_ok_iff.mp h
  have hbehind : (run Operand.propertyKind parts).2 =
      .element body :: .element (.reference r.span r.name) ::
        ((run Operand.markerKind beforeName).1.reverse.map (fun m => .marker m.1 m.2) ++
          (run Operand.markerKind beforeName).2) := by
    rw [run_marker_append, ← name_eq_ok hname]
    exact element_eq_ok hbody
  have hproperties := run_property_append parts
  rw [hbehind] at hproperties
  cases hresult
  exact ⟨_, r, body, _, hproperties.symm, rfl⟩

/-- A value has been read from the parts behind the rest. No definition and no option is among them,
and if it is the value of a token it is the only one of them. The flag tells whether the value is a
definition or an option itself. -/
structure ReadFrom (declares : Bool) (parts rest : Parts) (value : Operand) : Prop where
  isDeclaration_eq : value.isDeclaration = declares
  declared_eq : declared parts = declared rest
  alone : value.value?.isSome = true → rest = [] → parts = [value]

/-- A value that does not stand for the value of an option is read from parts that declare nothing
more. -/
theorem readFrom_of_value?_eq_none (hdeclares : value.isDeclaration = declares)
    (hdeclared : declared parts = declared rest) (hvalue : value.value? = none) :
    ReadFrom declares parts rest value where
  isDeclaration_eq := hdeclares
  declared_eq := hdeclared
  alone h := by simp [hvalue] at h

/-- Values that are no declarations can be left out where declarations are looked for. -/
theorem declared_map_append {make : α → Operand} (hmake : ∀ a, (make a).isDeclaration = false)
    (values : List α) (parts : Parts) : declared (values.map make ++ parts) = declared parts := by
  simp [declared, hmake]

/-- A sequence or a choice is read from parts that declare nothing. -/
theorem readFrom_joined {make : Span → Element → Element → Element}
    (hmake : ∀ span left right, (Operand.element (make span left right)).value? = none)
    (h : joined make kind span parts = .ok (value, rest)) : ReadFrom false parts rest value := by
  obtain ⟨others, last, rfl, rfl⟩ := joined_eq_ok h
  refine ⟨rfl, declared_map_append (fun _ => rfl) _ _, ?_⟩
  rintro hvalue rfl
  cases others with
  | nil => rfl
  | cons first others =>
    rw [List.foldr_cons, hmake] at hvalue
    cases hvalue

/-- An element with a suffix is read from parts that declare nothing. -/
theorem readFrom_suffix (h : suffix span parts = .ok (value, rest)) :
    ReadFrom false parts rest value := by
  rcases suffix_eq_ok h with ⟨operator, place, body, rfl, rfl⟩ | ⟨body, rfl, rfl⟩
  · exact readFrom_of_value?_eq_none rfl rfl (by cases operator <;> rfl)
  · exact ⟨rfl, rfl, fun _ hrest => by rw [hrest]⟩

/-- A marked element is read from parts that declare nothing. -/
theorem readFrom_marked (h : marked span parts = .ok (value, rest)) :
    ReadFrom false parts rest value := by
  obtain ⟨markers, body, rfl, rfl⟩ := marked_eq_ok h
  refine ⟨rfl, declared_map_append (fun _ => rfl) _ _, ?_⟩
  rintro hvalue rfl
  cases markers with
  | nil => rfl
  | cons marker markers => cases hvalue

/-- A definition is read from parts that declare nothing else. -/
theorem readFrom_definition {definitionKind : DefinitionKind}
    (h : definition definitionKind kind span parts = .ok (value, rest)) :
    ReadFrom true parts rest value := by
  obtain ⟨markers, r, body, properties, rfl, rfl⟩ := definition_eq_ok h
  refine readFrom_of_value?_eq_none rfl ?_ rfl
  rw [declared_map_append fun _ => rfl]
  exact declared_map_append (fun _ => rfl) _ _

/-- No node with a value of its own has a use for a definition or an option. -/
theorem readFrom_reading {read : Span → Parts → Except Malformed (Operand × Parts)}
    (hread : reading? kind = some read) (h : read span parts = .ok (value, rest)) :
    ReadFrom kind.isDeclaration parts rest value := by
  cases kind <;> cases hread
  case sequence | choice => exact readFrom_joined (fun _ _ _ => rfl) h
  case suffix => exact readFrom_suffix h
  case not =>
    obtain ⟨body, rfl, rfl⟩ := negation_eq_ok h
    exact readFrom_of_value?_eq_none rfl rfl rfl
  case marked => exact readFrom_marked h
  case regexTerm =>
    rcases regexTerm_eq_ok h with ⟨_, _, _, _, _, rfl, rfl⟩ | ⟨_, _, _, rfl, rfl⟩
    · exact readFrom_of_value?_eq_none rfl rfl rfl
    · exact readFrom_of_value?_eq_none rfl rfl rfl
  case repeatCount =>
    obtain ⟨_, _, _, rfl, _, rfl⟩ := repeatCount_eq_ok h
    exact readFrom_of_value?_eq_none rfl rfl rfl
  case property | optionDecl =>
    obtain ⟨_, _, rfl, _, _, rfl⟩ := attributed_eq_ok h
    exact readFrom_of_value?_eq_none rfl rfl rfl
  case definition | tmDefinition => exact readFrom_definition h

end Reading

end Peg
