import Mathlib.Data.List.Induction
import Peg.Proofs.Grammar.Declared

/-!
# How grammars are spelled

Which tokens an element of a grammar, a value that waits for a node or a definition stands for, from
left to right. Each token is used once. What a node reads from the values of its parts is spelled by
the tokens of these values, in their order.
-/

namespace Peg

open Peg.Text

/-- A token at its place. -/
structure Lexeme where
  kind : TokenKind
  text : String
  span : Span
  deriving DecidableEq, Repr

/-- Whether the token has a value. -/
def TokenKind.isValue : TokenKind → Bool
  | .ident | .string | .regex | .number | .true | .false => Bool.true
  | _ => Bool.false

/-- Whether the token says something about a definition: it has a value, or it is a marker or an
operator. -/
def TokenKind.isSpoken (kind : TokenKind) : Bool :=
  kind.isValue || kind.isMarkerKeyword || kind.isSuffixOperator

/-- The marker that the token is the keyword of. -/
def TokenKind.marker? : TokenKind → Option Marker
  | .kwDrop => some .drop
  | .kwTerminal => some (.terminal Bool.true)
  | .kwRawTerminal => some (.terminal Bool.false)
  | .kwInline => some .inline
  | .kwPromoteError => some .promoteError
  | .kwNameAsError => some .nameAsError
  | _ => none

/-- The operator that the token stands for. -/
def TokenKind.operator? : TokenKind → Option SuffixOperator
  | .question => some .optional
  | .star => some .zeroOrMore
  | .plus => some .oneOrMore
  | _ => none

/-- An element is spelled by tokens, from left to right. Only if `counted` is true, counts may stand
behind patterns. -/
inductive Element.SpelledBy (counted : Bool) : Element → List Lexeme → Prop where
  | text {l} : l.kind = .string →
    SpelledBy counted (.text l.span (Reduction.literalValue l.text)) [l]
  | regex {l span} : l.kind = .regex →
    SpelledBy counted (.regex span (Reduction.regexValue l.text) 1) [l]
  | repeatedRegex {l count span times} : counted = true → l.kind = .regex →
    count.kind = .number → Decimal.value32? count.text = some times →
      SpelledBy counted (.regex span (Reduction.regexValue l.text) times) [l, count]
  | number {l} : l.kind = .number → SpelledBy counted (.number l.span l.text) [l]
  | truth {l} : l.kind = .true → SpelledBy counted (.boolean l.span true) [l]
  | falsehood {l} : l.kind = .false → SpelledBy counted (.boolean l.span false) [l]
  | reference {l} : l.kind = .ident → SpelledBy counted (.reference l.span l.text) [l]
  | sequence {span left right ls rs} : SpelledBy counted left ls → SpelledBy counted right rs →
    SpelledBy counted (.sequence span left right) (ls ++ rs)
  | choice {span left right ls rs} : SpelledBy counted left ls → SpelledBy counted right rs →
    SpelledBy counted (.choice span left right) (ls ++ rs)
  | optional {l span body ls} : l.kind = .question → SpelledBy counted body ls →
    SpelledBy counted (.optional span body) (ls ++ [l])
  | zeroOrMore {l span body ls} : l.kind = .star → SpelledBy counted body ls →
    SpelledBy counted (.zeroOrMore span body) (ls ++ [l])
  | oneOrMore {l span body ls} : l.kind = .plus → SpelledBy counted body ls →
    SpelledBy counted (.oneOrMore span body) (ls ++ [l])
  | not {span body ls} : SpelledBy counted body ls → SpelledBy counted (.not span body) ls
  | marked {l marker span body ls} : l.kind.marker? = some marker → SpelledBy counted body ls →
    SpelledBy counted (.marked span marker body) (l :: ls)

/-- An attribute is spelled by its name and its value. -/
structure Attribute.SpelledBy (a : Attribute) (name value : Lexeme) : Prop where
  name_kind : name.kind = .ident
  name_text : name.text = a.name
  name_span : name.span = a.nameSpan
  value_eq : Value.ofToken? value.text value.kind = some a.value

/-- A marker is spelled by its keyword. -/
structure Marker.SpelledBy (marker : Marker × Span) (l : Lexeme) : Prop where
  kind : l.kind.marker? = some marker.1
  span : l.span = marker.2

/-- The property among the operands. -/
def Operand.property? : Operand → Option Attribute
  | .property a => some a
  | _ => none

/-- A value is spelled by tokens. Definitions and options are not. -/
inductive Operand.SpelledBy (counted : Bool) : Operand → List Lexeme → Prop where
  | element {e ls} : e.SpelledBy counted ls → SpelledBy counted (.element e) ls
  | marker {m l} : Marker.SpelledBy m l → SpelledBy counted (.marker m.1 m.2) [l]
  | operator {operator l} : l.kind.operator? = some operator →
    SpelledBy counted (.operator operator l.span) [l]
  | repeatCount {times l span} : l.kind = .number → Decimal.value32? l.text = some times →
    SpelledBy counted (.repeatCount times span) [l]
  | property {a name value} : a.SpelledBy name value →
    SpelledBy counted (.property a) [name, value]

/-- Values in a row are spelled by tokens. -/
inductive Operand.AllSpelledBy (counted : Bool) : List Operand → List Lexeme → Prop where
  | nil : AllSpelledBy counted [] []
  | cons {o os ls rest} : o.SpelledBy counted ls → AllSpelledBy counted os rest →
    AllSpelledBy counted (o :: os) (ls ++ rest)

/-- The tokens of a definition. -/
structure Wording where
  /-- The markers in front of the name. -/
  front : List Lexeme
  name : Lexeme
  body : List Lexeme
  /-- The names and the values of the properties. -/
  behind : List (Lexeme × Lexeme)

/-- The tokens of a definition in their order. -/
def Wording.lexemes (w : Wording) : List Lexeme :=
  w.front ++ w.name :: (w.body ++ w.behind.flatMap fun (name, value) => [name, value])

/-- A definition has just these tokens: the markers in front of it are the outermost ones around its
body, in the same order. -/
structure Definition.HasWording (d : Definition) (w : Wording) : Prop where
  body_eq : ∃ markers body, d.body = Reduction.wrap markers body ∧
    List.Forall₂ Marker.SpelledBy markers w.front ∧ body.SpelledBy true w.body
  name_kind : w.name.kind = .ident
  name_text : w.name.text = d.name
  name_span : w.name.span = d.nameSpan
  properties : List.Forall₂ (fun a (name, value) => Attribute.SpelledBy a name value)
    d.properties w.behind

/-- A definition is spelled by tokens. -/
def Definition.SpelledBy (d : Definition) (ls : List Lexeme) : Prop :=
  ∃ w, d.HasWording w ∧ ls = w.lexemes

namespace Attributes

/-- An attribute whose name is new is put behind the others. -/
theorem insert_of_not_mem {a : Attribute} {attributes : Attributes}
    (h : a.name ∉ attributes.map Attribute.name) : insert a attributes = attributes ++ [a] := by
  induction attributes with
  | nil => rfl
  | cons b bs ih =>
    rw [List.map_cons, List.mem_cons, not_or] at h
    rw [insert, if_neg (Ne.symm h.1), ih h.2, List.cons_append]

/-- If no name is given twice, all attributes stay as they are. -/
theorem ofList_eq_self {attributes : List Attribute}
    (h : (attributes.map Attribute.name).Nodup) : ofList attributes = attributes := by
  induction attributes using List.reverseRecOn with
  | nil => rfl
  | append_singleton attributes a ih =>
    rw [List.map_append, List.nodup_append] at h
    obtain ⟨hfront, _, hne⟩ := h
    have hnew : a.name ∉ attributes.map Attribute.name :=
      fun hmem => hne a.name hmem a.name List.mem_cons_self rfl
    have hinsert : ofList (attributes ++ [a]) = insert a (ofList attributes) := by simp [ofList]
    rw [hinsert, ih hfront, insert_of_not_mem hnew]

end Attributes

namespace Operand

variable {counted : Bool} {o : Operand} {os others : List Operand} {ls rest : List Lexeme}

/-- A single value is spelled by its tokens. -/
theorem SpelledBy.alone (h : o.SpelledBy counted ls) : AllSpelledBy counted [o] ls := by
  have hcons : AllSpelledBy counted [o] (ls ++ []) := .cons h .nil
  rwa [List.append_nil] at hcons

/-- The tokens of the first value come first, and then those of the others. -/
theorem AllSpelledBy.uncons (h : AllSpelledBy counted (o :: os) ls) :
    ∃ first rest, ls = first ++ rest ∧ o.SpelledBy counted first ∧
      AllSpelledBy counted os rest := by
  cases h with
  | cons ho hos => exact ⟨_, _, rfl, ho, hos⟩

/-- The tokens of a single value are all of the tokens. -/
theorem AllSpelledBy.only (h : AllSpelledBy counted [o] ls) : o.SpelledBy counted ls := by
  obtain ⟨first, rest, rfl, ho, hnil⟩ := h.uncons
  cases hnil
  rwa [List.append_nil]

/-- The tokens of values in two rows come row by row. -/
theorem AllSpelledBy.append (h : AllSpelledBy counted os ls)
    (hrest : AllSpelledBy counted others rest) :
    AllSpelledBy counted (os ++ others) (ls ++ rest) := by
  induction h with
  | nil => exact hrest
  | cons ho _ ih =>
    rw [List.append_assoc]
    exact .cons ho ih

/-- The tokens of values in a row are those of the first ones in front of those of the others. -/
theorem AllSpelledBy.split (h : AllSpelledBy counted (os ++ others) ls) :
    ∃ first second, ls = first ++ second ∧ AllSpelledBy counted os first ∧
      AllSpelledBy counted others second := by
  induction os generalizing ls with
  | nil => exact ⟨[], ls, rfl, .nil, h⟩
  | cons o os ih =>
    obtain ⟨tokens, rest, rfl, ho, hos⟩ := h.uncons
    obtain ⟨first, second, rfl, hfirst, hsecond⟩ := ih hos
    exact ⟨tokens ++ first, second, (List.append_assoc _ _ _).symm, .cons ho hfirst, hsecond⟩

/-- The tokens of a value with an element are those of the element. -/
theorem SpelledBy.of_element {e : Element} (h : (Operand.element e).SpelledBy counted ls) :
    e.SpelledBy counted ls := by
  cases h with
  | element h => exact h

/-- The tokens of markers in a row are their keywords. -/
theorem AllSpelledBy.markers {markers : List (Marker × Span)}
    (h : AllSpelledBy counted (markers.map fun m => .marker m.1 m.2) ls) :
    List.Forall₂ Marker.SpelledBy markers ls := by
  induction markers generalizing ls with
  | nil =>
    cases h
    exact .nil
  | cons m markers ih =>
    obtain ⟨first, rest, rfl, hfirst, hrest⟩ := h.uncons
    obtain ⟨kind, span⟩ := m
    cases hfirst with
    | marker hm => exact .cons hm (ih hrest)

end Operand

namespace Reading

open Reduction Operand

variable {counted : Bool} {kind : NodeKind} {span : Span} {values : List Operand} {value : Operand}
  {ls rest : List Lexeme}

/-- A token is what its value is spelled by. -/
theorem spelled_ofToken {tokenKind : TokenKind} {text : String}
    (h : ofToken tokenKind text span = .ok values) :
    AllSpelledBy counted values
      (if tokenKind.isSpoken then [⟨tokenKind, text, span⟩] else []) := by
  have helement {e : Element} (he : e.SpelledBy counted [⟨tokenKind, text, span⟩]) :
      AllSpelledBy counted [.element e] [⟨tokenKind, text, span⟩] :=
    (SpelledBy.element he).alone
  have hmarker {m : Marker} (hm : tokenKind.marker? = some m) :
      AllSpelledBy counted [.marker m span] [⟨tokenKind, text, span⟩] :=
    (SpelledBy.marker (m := (m, span)) ⟨hm, rfl⟩).alone
  have hoperator {o : SuffixOperator} (ho : tokenKind.operator? = some o) :
      AllSpelledBy counted [.operator o span] [⟨tokenKind, text, span⟩] :=
    (SpelledBy.operator (l := ⟨tokenKind, text, span⟩) ho).alone
  cases tokenKind <;> cases h
  case ident => exact helement (.reference (l := ⟨.ident, text, span⟩) rfl)
  case string => exact helement (.text (l := ⟨.string, text, span⟩) rfl)
  case regex => exact helement (.regex (l := ⟨.regex, text, span⟩) rfl)
  case number => exact helement (.number (l := ⟨.number, text, span⟩) rfl)
  case true => exact helement (.truth (l := ⟨.true, text, span⟩) rfl)
  case false => exact helement (.falsehood (l := ⟨.false, text, span⟩) rfl)
  case question | star | plus => exact hoperator rfl
  case kwDrop | kwTerminal | kwRawTerminal | kwInline | kwPromoteError | kwNameAsError =>
    exact hmarker rfl
  all_goals exact .nil

/-- Elements that are joined from the right are spelled from left to right. -/
theorem spelled_foldr {make : Span → Element → Element → Element}
    (hmake : ∀ span left right ls rest, left.SpelledBy counted ls →
      right.SpelledBy counted rest → Element.SpelledBy counted (make span left right) (ls ++ rest))
    {others : List Element} {last : Element}
    (h : AllSpelledBy counted ((others ++ [last]).map Operand.element) ls) :
    (others.foldr (fun e joined => make (e.span.cover joined.span) e joined) last).SpelledBy
      counted ls := by
  induction others generalizing ls with
  | nil => exact h.only.of_element
  | cons first others ih =>
    obtain ⟨tokens, rest, rfl, hfirst, hothers⟩ := h.uncons
    exact hmake _ _ _ _ _ hfirst.of_element (ih hothers)

/-- A sequence or a choice is spelled by the tokens of its elements. -/
theorem spelled_joined {make : Span → Element → Element → Element}
    (hmake : ∀ span left right ls rest, left.SpelledBy counted ls →
      right.SpelledBy counted rest → Element.SpelledBy counted (make span left right) (ls ++ rest))
    (h : joined make kind span values.reverse = .ok (value, []))
    (hvalues : AllSpelledBy counted values ls) : value.SpelledBy counted ls := by
  obtain ⟨others, last, hparts, rfl⟩ := joined_eq_ok h
  rw [List.append_nil, List.map_reverse, List.reverse_inj] at hparts
  rw [hparts] at hvalues
  exact .element (spelled_foldr hmake hvalues)

/-- An element with a suffix operator is spelled by its body and the operator behind it. -/
theorem spelled_apply {l : Lexeme} {operator : SuffixOperator} {body : Element}
    (hoperator : l.kind.operator? = some operator) (hbody : body.SpelledBy counted ls) :
    (operator.apply span body).SpelledBy counted (ls ++ [l]) := by
  cases hkind : l.kind <;> rw [hkind] at hoperator <;> cases hoperator
  · exact .optional hkind hbody
  · exact .zeroOrMore hkind hbody
  · exact .oneOrMore hkind hbody

/-- What is read as a suffix is spelled by the tokens of its node. -/
theorem spelled_suffix (h : suffix span values.reverse = .ok (value, []))
    (hvalues : AllSpelledBy counted values ls) : value.SpelledBy counted ls := by
  rcases suffix_eq_ok h with ⟨operator, place, body, hparts, rfl⟩ | ⟨body, hparts, rfl⟩
  · rw [List.reverse_eq_iff.mp hparts] at hvalues
    obtain ⟨first, rest, rfl, hfirst, hrest⟩ := hvalues.uncons
    cases hrest.only with
    | operator hoperator => exact .element (spelled_apply hoperator hfirst.of_element)
  · rw [List.reverse_eq_iff.mp hparts] at hvalues
    exact hvalues.only

/-- What is read as a lookahead is spelled by the tokens of its node. -/
theorem spelled_negation (h : negation span values.reverse = .ok (value, []))
    (hvalues : AllSpelledBy counted values ls) : value.SpelledBy counted ls := by
  obtain ⟨body, hparts, rfl⟩ := negation_eq_ok h
  rw [List.reverse_eq_iff.mp hparts] at hvalues
  exact .element (.not hvalues.only.of_element)

/-- Markers around an element are spelled in front of it. -/
theorem spelled_wrap {markers : List (Marker × Span)} {body : Element}
    (hmarkers : List.Forall₂ Marker.SpelledBy markers ls) (hbody : body.SpelledBy counted rest) :
    (wrap markers body).SpelledBy counted (ls ++ rest) := by
  induction hmarkers with
  | nil => exact hbody
  | cons hm _ ih => exact .marked hm.kind ih

/-- What is read as a marked element is spelled by the tokens of its node. -/
theorem spelled_marked (h : marked span values.reverse = .ok (value, []))
    (hvalues : AllSpelledBy counted values ls) : value.SpelledBy counted ls := by
  obtain ⟨markers, body, hparts, rfl⟩ := marked_eq_ok h
  have hparts : values = markers.map (fun m => .marker m.1 m.2) ++ [.element body] := by
    simpa using List.reverse_eq_iff.mp hparts
  rw [hparts] at hvalues
  obtain ⟨first, second, rfl, hfirst, hsecond⟩ := hvalues.split
  exact .element (spelled_wrap hfirst.markers hsecond.only.of_element)

/-- A pattern without a count is spelled by a single token. -/
theorem regex_of_spelled {place : Span} {source : String} {times : Nat}
    (h : (Element.regex place source times).SpelledBy false ls) :
    ∃ l : Lexeme, ls = [l] ∧ l.kind = .regex ∧ source = regexValue l.text ∧ times = 1 := by
  cases h with
  | regex hkind => exact ⟨_, rfl, hkind, rfl, rfl⟩
  | repeatedRegex hcounted => cases hcounted

/-- A count is put behind a pattern that has none. -/
theorem spelled_regexTerm (h : regexTerm span values.reverse = .ok (value, []))
    (hvalues : AllSpelledBy false values ls) : value.SpelledBy true ls := by
  rcases regexTerm_eq_ok h with
    ⟨count, place, place', source, once, hparts, rfl⟩ | ⟨place, source, once, hparts, rfl⟩
  · rw [List.reverse_eq_iff.mp hparts] at hvalues
    obtain ⟨first, rest, rfl, hfirst, hrest⟩ := hvalues.uncons
    obtain ⟨l, rfl, hl, rfl, rfl⟩ := regex_of_spelled hfirst.of_element
    cases hrest.only with
    | repeatCount hkind hcount => exact .element (.repeatedRegex rfl hl hkind hcount)
  · rw [List.reverse_eq_iff.mp hparts] at hvalues
    obtain ⟨l, rfl, hl, rfl, rfl⟩ := regex_of_spelled hvalues.only.of_element
    exact .element (.regex hl)

/-- What is read as a repeat count is spelled by the tokens of its node. -/
theorem spelled_repeatCount (h : repeatCount span values.reverse = .ok (value, []))
    (hvalues : AllSpelledBy counted values ls) : value.SpelledBy counted ls := by
  obtain ⟨place, digits, count, hparts, hcount, rfl⟩ := repeatCount_eq_ok h
  rw [List.reverse_eq_iff.mp hparts] at hvalues
  have hnumber := hvalues.only.of_element
  cases hnumber with
  | number hkind => exact .repeatCount hkind hcount

/-- The value of an attribute is a single token. -/
theorem value_of_spelled {e : Element} {v : Value} (hvalue : elementValue e = .ok v)
    (h : e.SpelledBy counted ls) :
    ∃ l : Lexeme, ls = [l] ∧ Value.ofToken? l.text l.kind = some v := by
  cases h with
  | @text l hkind =>
    cases hvalue
    exact ⟨l, rfl, by rw [hkind]; rfl⟩
  | @number l hkind =>
    cases hvalue
    exact ⟨l, rfl, by rw [hkind]; rfl⟩
  | @truth l hkind =>
    cases hvalue
    exact ⟨l, rfl, by rw [hkind]; rfl⟩
  | @falsehood l hkind =>
    cases hvalue
    exact ⟨l, rfl, by rw [hkind]; rfl⟩
  | @reference l hkind =>
    cases hvalue
    exact ⟨l, rfl, by rw [hkind]; rfl⟩
  | _ => cases hvalue

/-- A name is spelled by a single token, with its text and at its place. -/
theorem name_of_spelled {place : Span} {name : String}
    (h : (Element.reference place name).SpelledBy counted ls) :
    ∃ l : Lexeme, ls = [l] ∧ l.kind = .ident ∧ l.text = name ∧ l.span = place := by
  cases h with
  | reference hkind => exact ⟨_, rfl, hkind, rfl, rfl⟩

/-- What is read as a property is spelled by its name and its value. -/
theorem spelled_property (h : attributed .property kind span values.reverse = .ok (value, []))
    (hvalues : AllSpelledBy counted values ls) : value.SpelledBy counted ls := by
  obtain ⟨e, a, hparts, hvalue, _, rfl⟩ := attributed_eq_ok h
  rw [List.reverse_eq_iff.mp hparts] at hvalues
  obtain ⟨first, rest, rfl, hfirst, hrest⟩ := hvalues.uncons
  obtain ⟨name, rfl, hkind, htext, hspan⟩ := name_of_spelled hfirst.of_element
  obtain ⟨l, rfl, hl⟩ := value_of_spelled hvalue hrest.only.of_element
  exact .property ⟨hkind, htext, hspan, hl⟩

/-- Every node with a value that is no definition and no option is spelled by the tokens of its
parts, in their order. A count may only be put behind a pattern that has none. -/
theorem spelled_reading {read : Span → Parts → Except Malformed (Operand × Parts)}
    (hread : reading? kind = some read) (hdeclares : kind.isDeclaration = false)
    (hkind : kind ≠ .regexTerm) (h : read span values.reverse = .ok (value, []))
    (hvalues : AllSpelledBy counted values ls) : value.SpelledBy counted ls := by
  cases kind <;> cases hread
  case sequence => exact spelled_joined (fun _ _ _ _ _ => .sequence) h hvalues
  case choice => exact spelled_joined (fun _ _ _ _ _ => .choice) h hvalues
  case suffix => exact spelled_suffix h hvalues
  case not => exact spelled_negation h hvalues
  case marked => exact spelled_marked h hvalues
  case regexTerm => exact absurd rfl hkind
  case repeatCount => exact spelled_repeatCount h hvalues
  case property => exact spelled_property h hvalues
  case optionDecl | definition | tmDefinition => cases hdeclares

/-- Properties in a row are spelled by pairs of names and values. -/
theorem properties_of_spelled {properties : List Attribute}
    (h : AllSpelledBy counted (properties.map Operand.property) ls) :
    ∃ behind : List (Lexeme × Lexeme),
      List.Forall₂ (fun a (name, value) => Attribute.SpelledBy a name value) properties behind ∧
        ls = behind.flatMap fun (name, value) => [name, value] := by
  induction properties generalizing ls with
  | nil =>
    cases h
    exact ⟨[], .nil, rfl⟩
  | cons a properties ih =>
    obtain ⟨first, rest, rfl, hfirst, hrest⟩ := h.uncons
    obtain ⟨behind, hbehind, rfl⟩ := ih hrest
    cases hfirst with
    | @property _ name value ha => exact ⟨(name, value) :: behind, .cons ha hbehind, rfl⟩

/-- A definition is spelled by the tokens of its parts, in their order. -/
theorem spelled_definition {definitionKind : DefinitionKind}
    (h : definition definitionKind kind span values.reverse = .ok (value, []))
    (hvalues : AllSpelledBy true values ls)
    (hnames : ((values.filterMap Operand.property?).map Attribute.name).Nodup) :
    ∃ d, d.kind = definitionKind ∧ d.span = span ∧ value = .definition d ∧ d.SpelledBy ls := by
  obtain ⟨markers, r, body, properties, hparts, rfl⟩ := definition_eq_ok h
  obtain rfl : values = markers.map (fun m => .marker m.1 m.2) ++
      .element (.reference r.span r.name) :: .element body ::
        properties.map Operand.property := by
    simpa using List.reverse_eq_iff.mp hparts
  have hmarkers : (markers.map fun m => Operand.marker m.1 m.2).filterMap property? = [] := by
    simp [List.filterMap_eq_nil_iff, property?]
  have hproperties : (properties.map Operand.property).filterMap property? = properties := by
    simp [List.filterMap_map, Function.comp_def, property?]
  rw [List.filterMap_append, hmarkers, List.nil_append, List.filterMap_cons_none rfl,
    List.filterMap_cons_none rfl, hproperties] at hnames
  obtain ⟨front, afterFront, rfl, hfront, hafterFront⟩ := hvalues.split
  obtain ⟨first, afterName, rfl, hname, hafterName⟩ := hafterFront.uncons
  obtain ⟨tokens, afterBody, rfl, hbody, hafterBody⟩ := hafterName.uncons
  obtain ⟨name, rfl, hkind, htext, hspan⟩ := name_of_spelled hname.of_element
  obtain ⟨behind, hbehind, rfl⟩ := properties_of_spelled hafterBody
  refine ⟨_, rfl, rfl, rfl, ⟨front, name, tokens, behind⟩, ?_, rfl⟩
  exact ⟨⟨markers, body, rfl, hfront.markers, hbody.of_element⟩, hkind, htext, hspan,
    (Attributes.ofList_eq_self hnames).symm ▸ hbehind⟩

end Reading

end Peg
