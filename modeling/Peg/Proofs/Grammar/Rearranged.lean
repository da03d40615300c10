import Mathlib.Data.List.Nodup
import Mathlib.Logic.Relation
import Peg.Proofs.Grammar.References

/-!
# Grammars with the same definitions in another order

A grammar is rearranged by writing its definitions in another order. They keep their kinds, names,
bodies and properties, and get other places. References mean the same definitions as before, so the
cycles of references are the same.
-/

namespace Peg

/-- A span that says nothing about a place. -/
def Span.nowhere : Span := ⟨0, 0⟩

/-- The element without the places of its parts. -/
def Element.unplaced : Element → Element
  | .text _ content => .text .nowhere content
  | .regex _ pattern times => .regex .nowhere pattern times
  | .number _ digits => .number .nowhere digits
  | .boolean _ value => .boolean .nowhere value
  | .reference _ name => .reference .nowhere name
  | .sequence _ left right => .sequence .nowhere left.unplaced right.unplaced
  | .choice _ left right => .choice .nowhere left.unplaced right.unplaced
  | .optional _ body => .optional .nowhere body.unplaced
  | .zeroOrMore _ body => .zeroOrMore .nowhere body.unplaced
  | .oneOrMore _ body => .oneOrMore .nowhere body.unplaced
  | .not _ body => .not .nowhere body.unplaced
  | .marked _ marker body => .marked .nowhere marker body.unplaced

/-- The attribute without its place. -/
def Attribute.unplaced (a : Attribute) : Attribute :=
  { a with nameSpan := .nowhere, span := .nowhere }

/-- The definition without its number and its place. -/
def Definition.unplaced (d : Definition) : Definition :=
  { d with
    id := 0
    nameSpan := .nowhere
    body := d.body.unplaced
    properties := d.properties.map Attribute.unplaced
    span := .nowhere }

namespace Element

/-- An element keeps its markers when its spans are forgotten. -/
theorem markers_unplaced (e : Element) : e.unplaced.markers = e.markers := by
  induction e with
  | marked _ marker body ih => simp only [unplaced, markers, ih]
  | _ => rfl

/-- An element refers to the same names, in the same order, when its spans are forgotten. -/
theorem references_unplaced (e : Element) :
    e.unplaced.references.map Reference.name = e.references.map Reference.name := by
  induction e with
  | sequence _ left right ihl ihr | choice _ left right ihl ihr =>
    simp only [unplaced, references, List.map_append, ihl, ihr]
  | optional _ body ih | zeroOrMore _ body ih | oneOrMore _ body ih | not _ body ih
  | marked _ _ body ih => simpa only [unplaced, references] using ih
  | _ => rfl

end Element

namespace Definition

variable {d d' : Definition}

/-- Definitions that differ only in their spans have one name. -/
theorem name_eq_of_unplaced (h : d.unplaced = d'.unplaced) : d.name = d'.name := by
  have hname : d.unplaced.name = d'.unplaced.name := by rw [h]
  exact hname

/-- Definitions that differ only in their spans are both inline or both not. -/
theorem isInline_eq_of_unplaced (h : d.unplaced = d'.unplaced) : d.isInline = d'.isInline := by
  have hbody := congrArg (fun d => d.body.markers) h
  simp only [unplaced, Element.markers_unplaced] at hbody
  simp only [isInline, markers, hbody]

/-- The same names are referred to. -/
theorem exists_reference_of_unplaced (h : d.unplaced = d'.unplaced) {r : Reference}
    (hr : r ∈ d.body.references) : ∃ r' ∈ d'.body.references, r'.name = r.name := by
  have hnames := congrArg (fun d => d.body.references.map Reference.name) h
  simp only [unplaced, Element.references_unplaced] at hnames
  have hmem : r.name ∈ d'.body.references.map Reference.name :=
    hnames ▸ List.mem_map_of_mem hr
  exact List.mem_map.mp hmem

end Definition

namespace Grammar

variable {g g' : Grammar} {d d' t : Definition}

/-- The same definitions in any order. -/
def Rearranged (g g' : Grammar) : Prop :=
  (g.definitions.map Definition.unplaced).Perm (g'.definitions.map Definition.unplaced)

/-- A rearrangement can be undone by another one. -/
theorem Rearranged.symm (h : g.Rearranged g') : g'.Rearranged g :=
  List.Perm.symm h

/-- Every definition has its counterpart. -/
theorem Rearranged.counterpart (h : g.Rearranged g') (hd : d ∈ g.definitions) :
    ∃ d' ∈ g'.definitions, d'.unplaced = d.unplaced :=
  List.mem_map.mp (h.mem_iff.mp (List.mem_map_of_mem hd))

/-- A cycle of steps to definitions of the grammar stays in the grammar. -/
theorem mem_of_cycle {step : Definition → Definition → Prop}
    (hmem : ∀ {d t}, step d t → t ∈ g.definitions) (hcycle : Relation.TransGen step d d) :
    d ∈ g.definitions := by
  obtain ⟨_, _, hlast⟩ := Relation.TransGen.tail'_iff.mp hcycle
  exact hmem hlast

/-- The counterpart refers to the counterpart. -/
theorem Rearranged.leads (h : g.Rearranged g') (hsame : d'.unplaced = d.unplaced)
    (hleads : g.Leads d t) : ∃ t', t'.unplaced = t.unplaced ∧ g'.Leads d' t' := by
  obtain ⟨span, r, hr, _, hfind⟩ := hleads
  obtain ⟨r', hr', hname⟩ := Definition.exists_reference_of_unplaced hsame.symm hr
  obtain ⟨t', ht', htsame⟩ := h.counterpart (mem_of_find? hfind)
  have htarget : r'.name = t'.name := by
    rw [hname, ← name_of_find? hfind, Definition.name_eq_of_unplaced htsame]
  exact ⟨t', htsame, r'.span, r', hr', rfl, htarget ▸ find?_name ht'⟩

/-- A rearrangement keeps which definition refers to which inline one. -/
theorem Rearranged.inlineRefers (h : g.Rearranged g') (hsame : d'.unplaced = d.unplaced)
    (hrefers : g.InlineRefers d t) : ∃ t', t'.unplaced = t.unplaced ∧ g'.InlineRefers d' t' := by
  obtain ⟨hd, ht, hleads⟩ := hrefers
  obtain ⟨t', htsame, hleads'⟩ := h.leads hsame hleads
  exact ⟨t', htsame, (Definition.isInline_eq_of_unplaced hsame).trans hd,
    (Definition.isInline_eq_of_unplaced htsame).trans ht, hleads'⟩

/-- Definitions of a grammar with the same counterpart are the same. -/
theorem eq_of_unplaced_eq (hd : d ∈ g.definitions) (ht : t ∈ g.definitions)
    (h : d.unplaced = t.unplaced) : d = t :=
  eq_of_name_eq hd ht (Definition.name_eq_of_unplaced h)

/-- Steps that are taken by counterparts as well lead along the same cycles. -/
theorem Rearranged.cycle {step step' : Definition → Definition → Prop}
    (hmem : ∀ {d t}, step' d t → t ∈ g'.definitions)
    (hstep : ∀ {d d' t}, d'.unplaced = d.unplaced → step d t →
      ∃ t', t'.unplaced = t.unplaced ∧ step' d' t')
    (hd' : d' ∈ g'.definitions) (hsame : d'.unplaced = d.unplaced)
    (hcycle : Relation.TransGen step d d) : Relation.TransGen step' d' d' := by
  have hpath : ∀ t, Relation.TransGen step d t →
      ∃ t', t'.unplaced = t.unplaced ∧ Relation.TransGen step' d' t' := by
    intro t hpath
    induction hpath with
    | single hfirst =>
      obtain ⟨t', htsame, hfirst'⟩ := hstep hsame hfirst
      exact ⟨t', htsame, .single hfirst'⟩
    | tail _ hlast ih =>
      obtain ⟨e', hesame, hpath'⟩ := ih
      obtain ⟨t', htsame, hlast'⟩ := hstep hesame hlast
      exact ⟨t', htsame, .tail hpath' hlast'⟩
  obtain ⟨t', htsame, hcycle'⟩ := hpath d hcycle
  have ht' : t' ∈ g'.definitions := by
    obtain ⟨_, _, hlast⟩ := Relation.TransGen.tail'_iff.mp hcycle'
    exact hmem hlast
  rwa [eq_of_unplaced_eq ht' hd' (htsame.trans hsame.symm)] at hcycle'

end Grammar

end Peg
