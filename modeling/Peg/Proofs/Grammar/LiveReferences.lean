import Peg.Analysis.Relevance

/-!
# Where references stand

A reference is live if no negation, no terminal and no dropped element encloses it, and it is forced
if a choice or a repetition that may be empty encloses it. The live references of an element are
those that are found by walking through it.
-/

namespace Peg.Element

/-- The element has a part. The elements that enclose the part are `around`, the outermost first. -/
inductive HasPart : Element → List Element → Element → Prop where
  | self (e : Element) : HasPart e [] e
  | child {e child part : Element} {around : List Element} : child ∈ e.children →
      HasPart child around part → HasPart e (e :: around) part

/-- Whether nothing shows in the tree of what is matched inside the element. -/
def hides : Element → Bool
  | .marked _ .drop _ | .marked _ (.terminal _) _ | .not _ _ => true
  | _ => false

/-- Whether the element may be matched without its parts. -/
def forces : Element → Bool
  | .choice _ _ _ | .optional _ _ | .zeroOrMore _ _ => true
  | _ => false

/-- The element has a live reference to a name, which is forced or not. -/
def HasLive (e : Element) (name : String) (forced : Bool) : Prop :=
  ∃ around span, e.HasPart around (.reference span name) ∧ (∀ outer ∈ around, outer.hides = false) ∧
    forced = around.any forces

variable {e : Element} {name : String} {forced : Bool}

/-- A live reference is the element itself or a live reference of one of its parts. -/
theorem hasLive_iff : e.HasLive name forced ↔
    (∃ span, e = .reference span name ∧ forced = false) ∨
      e.hides = false ∧ ∃ child ∈ e.children, ∃ inner, child.HasLive name inner ∧
        forced = (e.forces || inner) := by
  constructor
  · rintro ⟨around, span, hpart, hshown, rfl⟩
    cases hpart with
    | self => exact Or.inl ⟨span, rfl, rfl⟩
    | @child _ child _ around hchild hpart =>
      obtain ⟨hself, hshown⟩ := List.forall_mem_cons.mp hshown
      exact Or.inr ⟨hself, child, hchild, _, ⟨around, span, hpart, hshown, rfl⟩, rfl⟩
  · rintro (⟨span, rfl, rfl⟩ | ⟨hself, child, hchild, _, ⟨around, span, hpart, hshown, rfl⟩, rfl⟩)
    · exact ⟨[], span, .self _, by simp, rfl⟩
    · exact ⟨e :: around, span, .child hchild hpart, List.forall_mem_cons.mpr ⟨hself, hshown⟩, rfl⟩

/-- What passes from the direct parts of each element to the element holds of every element. -/
theorem induct_children {P : Element → Prop}
    (h : ∀ e : Element, (∀ child ∈ e.children, P child) → P e) (e : Element) : P e := by
  induction e with
  | sequence _ left right ihl ihr | choice _ left right ihl ihr =>
    exact h _ (by simp [children, ihl, ihr])
  | optional _ body ih | zeroOrMore _ body ih | oneOrMore _ body ih | not _ body ih
  | marked _ _ body ih => exact h _ (by simp [children, ih])
  | text | regex | number | boolean | reference => exact h _ (by simp [children])

/-- The walk goes on in the direct parts of an element, unless that hides them. -/
theorem mem_liveReferences_step {r : LiveReference} : r ∈ e.liveReferences forced ↔
    (∃ span, e = .reference span r.name ∧ r.forced = forced) ∨
      e.hides = false ∧ ∃ child ∈ e.children, r ∈ child.liveReferences (forced || e.forces) := by
  obtain ⟨name, f⟩ := r
  cases e with
  | marked _ marker body => cases marker <;> simp [liveReferences, hides, forces, children]
  | reference span own =>
    simp only [liveReferences, List.mem_singleton, LiveReference.mk.injEq, reference.injEq,
      children, List.not_mem_nil, false_and, exists_false, and_false, or_false]
    constructor
    · rintro ⟨rfl, rfl⟩
      exact ⟨span, ⟨rfl, rfl⟩, rfl⟩
    · rintro ⟨_, ⟨_, rfl⟩, rfl⟩
      exact ⟨rfl, rfl⟩
  | _ => simp [liveReferences, hides, forces, children]

/-- The walk through an element finds just its live references. -/
theorem mem_liveReferences_iff {r : LiveReference} : r ∈ e.liveReferences forced ↔
    ∃ inner, e.HasLive r.name inner ∧ r.forced = (forced || inner) := by
  induction e using induct_children generalizing forced with
  | h e ih =>
    rw [mem_liveReferences_step]
    constructor
    · rintro (⟨span, hself, hforced⟩ | ⟨hshown, child, hchild, hr⟩)
      · exact ⟨false, hasLive_iff.mpr (Or.inl ⟨span, hself, rfl⟩), by simp [hforced]⟩
      · obtain ⟨inner, hlive, hforced⟩ := (ih child hchild).mp hr
        refine ⟨e.forces || inner, ?_, by rw [hforced, Bool.or_assoc]⟩
        exact hasLive_iff.mpr (Or.inr ⟨hshown, child, hchild, inner, hlive, rfl⟩)
    · rintro ⟨inner, hlive, hforced⟩
      rcases hasLive_iff.mp hlive with ⟨span, hself, rfl⟩ | ⟨hshown, child, hchild, f, hpart, rfl⟩
      · exact Or.inl ⟨span, hself, by simpa using hforced⟩
      · refine Or.inr ⟨hshown, child, hchild, (ih child hchild).mpr ⟨f, hpart, ?_⟩⟩
        rw [hforced, Bool.or_assoc]

/-- What a child refers to, its parent refers to. -/
theorem references_subset {child : Element} (h : child ∈ e.children) :
    child.references ⊆ e.references := by
  cases e with
  | sequence _ left right | choice _ left right =>
    have hchild : child = left ∨ child = right := by simpa [children] using h
    rcases hchild with rfl | rfl
    · exact List.subset_append_left _ _
    · exact List.subset_append_right _ _
  | optional _ body | zeroOrMore _ body | oneOrMore _ body | not _ body | marked _ _ body =>
    obtain rfl := List.mem_singleton.mp h
    exact List.Subset.refl _
  | text | regex | number | boolean | reference => cases h

/-- A live reference is a reference. -/
theorem HasLive.exists_reference (h : e.HasLive name forced) :
    ∃ r ∈ e.references, r.name = name := by
  induction e using induct_children generalizing forced with
  | h e ih =>
    rcases hasLive_iff.mp h with ⟨span, rfl, _⟩ | ⟨_, child, hchild, inner, hpart, _⟩
    · exact ⟨⟨name, span⟩, by simp [references], rfl⟩
    · obtain ⟨r, hr, hname⟩ := ih child hchild hpart
      exact ⟨r, references_subset hchild hr, hname⟩

end Peg.Element
