import Mathlib.Data.List.Nodup
import Peg.Grammar

/-!
# References between definitions

A definition refers to another one where its body contains the name of that one. The numbers of
definitions are their places in the grammar, so they tell definitions apart.
-/

namespace Peg

/-- There are at most `n` distinct numbers below `n`. -/
theorem length_le_of_nodup {ids : List Nat} {n : Nat} (hnodup : ids.Nodup)
    (hids : ∀ id ∈ ids, id < n) : ids.length ≤ n := by
  have hsub : ids ⊆ List.range n := fun id hid => List.mem_range.mpr (hids id hid)
  simpa using hnodup.length_le_of_subset hsub

namespace Grammar

variable {g : Grammar} {d t : Definition}

/-- A number leads to a definition of the grammar. -/
theorem mem_of_get? {id : Nat} (h : g.get? id = some d) : d ∈ g.definitions :=
  List.mem_of_getElem? h

/-- A definition has the number under which it is found. -/
theorem id_of_get? {id : Nat} (h : g.get? id = some d) : d.id = id := by
  have hid : (g.definitions.map Definition.id)[id]? = some d.id := by
    rw [List.getElem?_map, show g.definitions[id]? = some d from h]
    rfl
  rw [g.numbered] at hid
  obtain ⟨_, hrange⟩ := List.getElem?_eq_some_iff.mp hid
  simpa using hrange.symm

/-- The place of a definition is its number. -/
theorem get?_id (hd : d ∈ g.definitions) : g.get? d.id = some d := by
  obtain ⟨i, hi⟩ := List.getElem?_of_mem hd
  have hget : g.get? i = some d := hi
  rw [id_of_get? hget]
  exact hget

/-- The numbers of definitions are below the number of definitions. -/
theorem id_lt_size (hd : d ∈ g.definitions) : d.id < g.size := by
  have hget := get?_id hd
  exact (List.getElem?_eq_some_iff.mp hget).1

/-- No two definitions have the same number. -/
theorem eq_of_id_eq (hd : d ∈ g.definitions) (ht : t ∈ g.definitions) (h : d.id = t.id) :
    d = t := by
  have hget := get?_id hd
  rw [h, get?_id ht] at hget
  exact (Option.some.inj hget).symm

/-- A name leads to a definition of the grammar. -/
theorem mem_of_find? {name : String} (h : g.find? name = some d) : d ∈ g.definitions :=
  List.mem_of_find?_eq_some h

/-- No two definitions have the same name. -/
theorem eq_of_name_eq (hd : d ∈ g.definitions) (ht : t ∈ g.definitions) (h : d.name = t.name) :
    d = t :=
  List.inj_on_of_nodup_map g.distinct hd ht (congrArg Text.LetterCase.lowerText h)

/-- The definition that is found by a name has this name. -/
theorem name_of_find? {name : String} (h : g.find? name = some d) : d.name = name := by
  have hname := List.find?_some h
  exact beq_iff_eq.mp hname

/-- A definition is found by its name. -/
theorem find?_name (hd : d ∈ g.definitions) : g.find? d.name = some d := by
  cases hfind : g.find? d.name with
  | none =>
    have hnone := List.find?_eq_none.mp hfind d hd
    simp at hnone
  | some t => rw [eq_of_name_eq (mem_of_find? hfind) hd (name_of_find? hfind)]

/-- The body of `d` contains a reference to `t` at a place. -/
def Refers (g : Grammar) (d t : Definition) (span : Span) : Prop :=
  ∃ r ∈ d.body.references, r.span = span ∧ g.find? r.name = some t

/-- A reference is to a definition of the grammar. -/
theorem Refers.mem {span : Span} (h : g.Refers d t span) : t ∈ g.definitions := by
  obtain ⟨_, _, _, hfind⟩ := h
  exact mem_of_find? hfind

/-- The body of `d` contains a reference to `t`. -/
def Leads (g : Grammar) (d t : Definition) : Prop :=
  ∃ span, g.Refers d t span

/-- References lead to definitions of the grammar. -/
theorem Leads.mem (h : g.Leads d t) : t ∈ g.definitions := by
  obtain ⟨_, hrefers⟩ := h
  exact hrefers.mem

/-- One inline definition refers to another, so that the body of the second one becomes part of the
expansion of the first one. -/
def InlineRefers (g : Grammar) (d t : Definition) : Prop :=
  d.isInline = true ∧ t.isInline = true ∧ ∃ span, g.Refers d t span

/-- References between inline definitions lead to definitions of the grammar. -/
theorem InlineRefers.mem (h : g.InlineRefers d t) : t ∈ g.definitions := by
  obtain ⟨_, _, _, hrefers⟩ := h
  exact hrefers.mem

/-- References at the given places lead from `first` through the definitions of a path, the first
one included, to a last definition. -/
inductive Trail (g : Grammar) (first : Definition) :
    List Definition → List Span → Definition → Prop where
  | start : g.Trail first [] [] first
  | step {path : List Definition} {spans : List Span} {d t : Definition} {span : Span} :
      g.Trail first path spans d → g.Refers d t span →
      g.Trail first (path ++ [d]) (spans ++ [span]) t

/-- All definitions on a path belong to the grammar if the first one does. -/
theorem Trail.mem {first : Definition} {path : List Definition} {spans : List Span}
    (h : g.Trail first path spans t) (hfirst : first ∈ g.definitions) :
    t ∈ g.definitions ∧ ∀ d ∈ path, d ∈ g.definitions := by
  induction h with
  | start => exact ⟨hfirst, by simp⟩
  | step _ hrefers ih =>
    refine ⟨hrefers.mem, fun e he => ?_⟩
    rcases List.mem_append.mp he with he | he
    · exact ih.2 e he
    · rw [List.mem_singleton.mp he]
      exact ih.1

end Grammar

end Peg
