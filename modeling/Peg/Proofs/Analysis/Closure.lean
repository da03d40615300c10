import Peg.Analysis
import Peg.Proofs.Grammar.References

/-!
# What is reachable is closed

An exploration ends with a list that contains everything next to its members. The budget suffices
because every definition is found once and looked at once.
-/

namespace Peg

/-- The fresh members of a list are those that have not been found. -/
theorem mem_unfound {id : Nat} {found ids : List Nat} :
    id ∈ unfound found ids ↔ id ∈ ids ∧ id ∉ found := by
  induction ids generalizing found with
  | nil => simp [unfound]
  | cons x ids ih =>
    simp only [unfound]
    split
    next hx =>
      have hfound : x ∈ found := List.contains_iff_mem.mp hx
      grind
    next hx =>
      have hfound : x ∉ found := fun hmem => hx (List.contains_iff_mem.mpr hmem)
      grind

/-- No number is found twice at once. -/
theorem nodup_unfound {found ids : List Nat} : (unfound found ids).Nodup := by
  induction ids generalizing found with
  | nil => simp [unfound]
  | cons x ids ih =>
    simp only [unfound]
    split
    · exact ih
    · refine List.nodup_cons.mpr ⟨fun hmem => ?_, ih⟩
      exact (mem_unfound.mp hmem).2 List.mem_cons_self

/-- Numbers below `size` have been found once each, and what is next to them has been found too
unless they are still waiting. -/
structure Exploration (next : Nat → List Nat) (size : Nat) (waiting found : List Nat) : Prop where
  nodup : found.Nodup
  lt : ∀ id ∈ found, id < size
  closed : ∀ id ∈ found, id ∈ waiting ∨ next id ⊆ found

variable {next : Nat → List Nat} {size : Nat}

/-- Looking next to a number finds what is there and lets it wait. -/
theorem Exploration.look {id : Nat} {waiting found : List Nat}
    (h : Exploration next size (id :: waiting) found) (hnext : ∀ t ∈ next id, t < size) :
    Exploration next size (waiting ++ unfound found (next id)) (found ++ unfound found (next id))
    where
  nodup := by
    refine List.nodup_append.mpr ⟨h.nodup, nodup_unfound, ?_⟩
    rintro x hx y hy rfl
    exact (mem_unfound.mp hy).2 hx
  lt x hx := by
    rcases List.mem_append.mp hx with hx | hx
    · exact h.lt x hx
    · exact hnext x (mem_unfound.mp hx).1
  closed x hx := by
    rcases List.mem_append.mp hx with hx | hx
    · rcases h.closed x hx with hwaiting | hsub
      · rcases List.mem_cons.mp hwaiting with rfl | hwaiting
        · right
          intro t ht
          by_cases hfound : t ∈ found
          · exact List.mem_append_left _ hfound
          · exact List.mem_append_right _ (mem_unfound.mpr ⟨ht, hfound⟩)
        · exact Or.inl (List.mem_append_left _ hwaiting)
      · exact Or.inr (List.subset_append_of_subset_left _ hsub)
    · exact Or.inl (List.mem_append_right _ hx)

/-- An exploration with enough budget ends with a closed list. -/
theorem Exploration.explore (hnext : ∀ id, ∀ t ∈ next id, t < size) {budget : Nat}
    {waiting found : List Nat} (h : Exploration next size waiting found)
    (hbudget : waiting.length + size ≤ budget + found.length) :
    found ⊆ Peg.explore next budget waiting found ∧
      Exploration next size [] (Peg.explore next budget waiting found) := by
  induction budget generalizing waiting found with
  | zero =>
    have hlength := length_le_of_nodup h.nodup h.lt
    obtain rfl : waiting = [] := List.eq_nil_of_length_eq_zero (by omega)
    exact ⟨List.Subset.refl _, h⟩
  | succ budget ih =>
    cases waiting with
    | nil => exact ⟨List.Subset.refl _, h⟩
    | cons id waiting =>
      simp only [Peg.explore]
      have hlook := h.look (hnext id)
      obtain ⟨hsub, hclosed⟩ := ih hlook (by
        simp only [List.length_cons, List.length_append] at hbudget ⊢
        omega)
      exact ⟨List.Subset.trans (List.subset_append_left _ _) hsub, hclosed⟩

/-- Whatever has been found stays at the front. -/
theorem prefix_explore (next : Nat → List Nat) (budget : Nat) (waiting found : List Nat) :
    found <+: explore next budget waiting found := by
  induction budget generalizing waiting found with
  | zero => exact List.prefix_rfl
  | succ budget ih =>
    cases waiting with
    | nil => exact List.prefix_rfl
    | cons id waiting =>
      rw [explore]
      exact (List.prefix_append found _).trans (ih _ _)

namespace Grammar

variable {g : Grammar} {root : Nat}

/-- The name of a rule leads to a definition of the grammar. -/
theorem mem_of_rule? {name : String} {d : Definition} (h : g.rule? name = some d) :
    d ∈ g.definitions := by
  obtain ⟨hfind, _⟩ := Option.filter_eq_some_iff.mp h
  exact mem_of_find? hfind

/-- Names are resolved to definitions of the grammar. -/
theorem resolve_mem {names : List String} {t : Definition} (ht : t ∈ g.resolve names) :
    t ∈ g.definitions := by
  obtain ⟨name, _, hfind⟩ := List.mem_filterMap.mp ht
  exact mem_of_find? hfind

/-- What is reachable from given definitions is found by an exploration that starts at them. -/
theorem exploration_reachable {next : Definition → List Nat}
    (hnext : ∀ d ∈ g.definitions, ∀ id ∈ next d, id < g.size) {start : List Nat}
    (hnodup : start.Nodup) (hlt : ∀ id ∈ start, id < g.size) :
    start ⊆ g.reachable next start ∧
      Exploration (fun id => ((g.get? id).map next).getD []) g.size []
        (g.reachable next start) := by
  have hnumbers : ∀ id, ∀ t ∈ ((g.get? id).map next).getD [], t < g.size := by
    intro id t ht
    cases hd : g.get? id with
    | none => simp [hd] at ht
    | some d =>
      simp only [hd, Option.map_some, Option.getD_some] at ht
      exact hnext d (mem_of_get? hd) t ht
  have hstart : Exploration (fun id => ((g.get? id).map next).getD []) g.size start start :=
    ⟨hnodup, hlt, fun _ hid => Or.inl hid⟩
  exact hstart.explore hnumbers (by omega)

/-- The targets of a definition are numbers of definitions. -/
theorem lt_size_of_mem_ruleTargets {d : Definition} {id : Nat} (hid : id ∈ g.ruleTargets d) :
    id < g.size := by
  simp only [ruleTargets, List.mem_map, List.mem_filter] at hid
  obtain ⟨t, ⟨ht, _⟩, rfl⟩ := hid
  exact id_lt_size (resolve_mem ht)

/-- What the parser needs is found by an exploration that starts at the root. -/
theorem exploration_ruleTargets (hroot : root < g.size) :
    root ∈ g.reachable g.ruleTargets [root] ∧
      Exploration (fun id => ((g.get? id).map g.ruleTargets).getD []) g.size []
        (g.reachable g.ruleTargets [root]) := by
  have hnext : ∀ d ∈ g.definitions, ∀ id ∈ g.ruleTargets d, id < g.size :=
    fun _ _ _ => lt_size_of_mem_ruleTargets
  have hstart : ∀ id ∈ [root], id < g.size := by simpa using hroot
  obtain ⟨hsub, hclosed⟩ := exploration_reachable hnext (List.nodup_singleton root) hstart
  exact ⟨hsub List.mem_cons_self, hclosed⟩

/-- A rule that a reachable definition refers to is reachable. -/
theorem mem_reachable_of_refers (hroot : root < g.size) {d t : Definition} {r : Reference}
    (hd : d ∈ g.definitions) (hmem : d.id ∈ g.reachable g.ruleTargets [root])
    (hr : r ∈ d.body.references) (hfind : g.find? r.name = some t) (hkind : t.kind = .rule) :
    t.id ∈ g.reachable g.ruleTargets [root] := by
  rcases (exploration_ruleTargets hroot).2.closed d.id hmem with hnil | hsub
  · cases hnil
  · apply hsub
    simp only [get?_id hd, Option.map_some, Option.getD_some, ruleTargets, List.mem_map,
      List.mem_filter]
    refine ⟨t, ⟨?_, by simp [hkind]⟩, rfl⟩
    exact List.mem_filterMap.mpr ⟨r.name, List.mem_map_of_mem hr, hfind⟩

/-- The root is a rule of the parser, and every rule of the parser is a definition. -/
theorem root_mem_callableRules (hroot : root < g.size) : root ∈ g.callableRules root :=
  List.mem_filter.mpr ⟨(exploration_ruleTargets hroot).1, by simp⟩

/-- The root comes first among the rules of the parser. -/
theorem exists_callableRules_eq_cons (g : Grammar) (root : Nat) :
    ∃ rest, g.callableRules root = root :: rest := by
  obtain ⟨rest, hrest⟩ := prefix_explore (fun id => ((g.get? id).map g.ruleTargets).getD []) g.size
    [root] [root]
  refine ⟨rest.filter fun id => id == root || !g.isInlineId id, ?_⟩
  rw [callableRules, reachable, ← hrest]
  simp

/-- No rule is callable twice. -/
theorem nodup_callableRules (hroot : root < g.size) : (g.callableRules root).Nodup :=
  (exploration_ruleTargets hroot).2.nodup.filter _

/-- Callable rules are numbers of definitions. -/
theorem lt_size_of_mem_callableRules (hroot : root < g.size) {id : Nat}
    (hid : id ∈ g.callableRules root) : id < g.size :=
  (exploration_ruleTargets hroot).2.lt id (List.mem_filter.mp hid).1

/-- A reachable rule that the parser does not call is inline. -/
theorem isInline_of_not_mem_callableRules {d : Definition} (hd : d ∈ g.definitions)
    (hmem : d.id ∈ g.reachable g.ruleTargets [root]) (hnot : d.id ∉ g.callableRules root) :
    d.isInline = true := by
  have hinline : g.isInlineId d.id = d.isInline := by simp [isInlineId, get?_id hd]
  cases hvalue : d.isInline with
  | true => rfl
  | false => exact absurd (List.mem_filter.mpr ⟨hmem, by simp [hinline, hvalue]⟩) hnot

end Grammar

end Peg
