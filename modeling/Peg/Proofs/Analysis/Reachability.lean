import Mathlib.Logic.Relation
import Peg.Proofs.Analysis.Closure
import Peg.Proofs.Grammar.Rearranged

/-!
# What is reachable

A definition is found from others exactly if a chain of steps leads to it. The steps may be the
references to rules, by which the rules of the parser are found, or the dependencies, by which the
rules that are used are found. A reference to a rule is a dependency as well, so whatever goes into
the parser is used.
-/

namespace Peg

open Relation

/-- An exploration finds nothing that no chain of steps leads to. -/
theorem exists_start_of_mem_explore {next : Nat → List Nat} {budget : Nat}
    {waiting found : List Nat} (hwaiting : waiting ⊆ found) {id : Nat}
    (hid : id ∈ explore next budget waiting found) :
    ∃ first ∈ found, ReflTransGen (fun a b => b ∈ next a) first id := by
  induction budget generalizing waiting found with
  | zero => exact ⟨id, hid, .refl⟩
  | succ budget ih =>
    cases waiting with
    | nil => exact ⟨id, hid, .refl⟩
    | cons look waiting =>
      rw [explore] at hid
      have hsub : waiting ++ unfound found (next look) ⊆ found ++ unfound found (next look) :=
        List.append_subset.mpr ⟨fun x hx => List.mem_append_left _
          (hwaiting (List.mem_cons_of_mem _ hx)), List.subset_append_right _ _⟩
      obtain ⟨first, hfirst, hpath⟩ := ih hsub hid
      rcases List.mem_append.mp hfirst with hfirst | hfresh
      · exact ⟨first, hfirst, hpath⟩
      · exact ⟨look, hwaiting List.mem_cons_self, .head (mem_unfound.mp hfresh).1 hpath⟩

namespace Grammar

variable {g : Grammar} {root d t : Definition}

/-- The numbers that are next to a definition are those of the definitions one step away. -/
structure Enumerates (g : Grammar) (next : Definition → List Nat)
    (step : Definition → Definition → Prop) : Prop where
  mem : ∀ {d t}, step d t → t ∈ g.definitions
  iff : ∀ {d}, d ∈ g.definitions → ∀ id, id ∈ next d ↔ ∃ t, step d t ∧ t.id = id

section Enumerates

variable {next : Definition → List Nat} {step : Definition → Definition → Prop}
  {start : List Definition}

/-- The numbers of different definitions are different. -/
theorem nodup_map_id (hstart : start ⊆ g.definitions) (hnodup : start.Nodup) :
    (start.map Definition.id).Nodup :=
  hnodup.map_on fun _ hd _ ht hid => eq_of_id_eq (hstart hd) (hstart ht) hid

/-- What is reachable from some definitions is an exploration of what is next to them. -/
theorem Enumerates.exploration (h : g.Enumerates next step) (hstart : start ⊆ g.definitions)
    (hnodup : start.Nodup) :
    start.map Definition.id ⊆ g.reachable next (start.map Definition.id) ∧
      Exploration (fun id => ((g.get? id).map next).getD []) g.size []
        (g.reachable next (start.map Definition.id)) := by
  refine exploration_reachable (fun d hd id hid => ?_) (nodup_map_id hstart hnodup) ?_
  · obtain ⟨t, hstep, rfl⟩ := (h.iff hd id).mp hid
    exact id_lt_size (h.mem hstep)
  · intro id hid
    obtain ⟨d, hd, rfl⟩ := List.mem_map.mp hid
    exact id_lt_size (hstart hd)

/-- Just what a chain of steps leads to is reachable. -/
theorem Enumerates.mem_reachable_iff (h : g.Enumerates next step)
    (hstart : start ⊆ g.definitions) (hnodup : start.Nodup) (hd : d ∈ g.definitions) :
    d.id ∈ g.reachable next (start.map Definition.id) ↔
      ∃ first ∈ start, ReflTransGen step first d := by
  constructor
  · intro hfound
    obtain ⟨number, hnumber, hpath⟩ := exists_start_of_mem_explore (List.Subset.refl _) hfound
    obtain ⟨first, hfirst, rfl⟩ := List.mem_map.mp hnumber
    have hchain : ∀ id, ReflTransGen
        (fun a b => b ∈ ((g.get? a).map next).getD []) first.id id →
        ∃ t ∈ g.definitions, t.id = id ∧ ReflTransGen step first t := by
      intro id hpath
      induction hpath with
      | refl => exact ⟨first, hstart hfirst, rfl, .refl⟩
      | tail _ hlast ih =>
        obtain ⟨e, he, rfl, hsteps⟩ := ih
        simp only [get?_id he, Option.map_some, Option.getD_some] at hlast
        obtain ⟨t, hstep, rfl⟩ := (h.iff he _).mp hlast
        exact ⟨t, h.mem hstep, rfl, hsteps.tail hstep⟩
    obtain ⟨t, ht, hid, hsteps⟩ := hchain d.id hpath
    exact ⟨first, hfirst, eq_of_id_eq ht hd hid ▸ hsteps⟩
  · rintro ⟨first, hfirst, hsteps⟩
    obtain ⟨hsub, hexploration⟩ := h.exploration hstart hnodup
    -- What has been found is closed under steps, so no chain of steps leaves it.
    have hchain : ∀ t, ReflTransGen step first t →
        t ∈ g.definitions ∧ t.id ∈ g.reachable next (start.map Definition.id) := by
      intro t hsteps
      induction hsteps with
      | refl => exact ⟨hstart hfirst, hsub (List.mem_map_of_mem hfirst)⟩
      | @tail e t _ hstep ih =>
        refine ⟨h.mem hstep, ?_⟩
        rcases hexploration.closed e.id ih.2 with hnil | hnext
        · cases hnil
        · apply hnext
          simp only [get?_id ih.1, Option.map_some, Option.getD_some]
          exact (h.iff ih.1 _).mpr ⟨t, hstep, rfl⟩
    exact (hchain d hsteps).2

end Enumerates

/-- The body of `d` refers to the rule `t`. -/
def RefersToRule (g : Grammar) (d t : Definition) : Prop :=
  g.Leads d t ∧ t.kind = .rule

/-- A definition depends on what its body refers to, and on the definitions whose names one of its
properties for a region of highlighting holds. -/
inductive DependsOn (g : Grammar) (d t : Definition) : Prop where
  | body : g.Leads d t → g.DependsOn d t
  | property {property name : String} : property ∈ ["begin", "end", "include"] →
      name ∈ d.propertyNames property → g.find? name = some t → g.DependsOn d t

/-- A definition depends on definitions of the grammar. -/
theorem DependsOn.mem (h : g.DependsOn d t) : t ∈ g.definitions := by
  cases h with
  | body hleads => exact hleads.mem
  | property _ _ hfind => exact mem_of_find? hfind

/-- The targets of a definition are the rules to which its body refers. -/
theorem enumerates_ruleTargets (g : Grammar) : g.Enumerates g.ruleTargets g.RefersToRule where
  mem h := h.1.mem
  iff {d} _ id := by
    simp only [ruleTargets, resolve, List.mem_map, List.mem_filter, List.mem_filterMap,
      decide_eq_true_eq]
    constructor
    · rintro ⟨t, ⟨⟨_, ⟨r, hr, rfl⟩, hfind⟩, hkind⟩, rfl⟩
      exact ⟨t, ⟨⟨r.span, r, hr, rfl, hfind⟩, hkind⟩, rfl⟩
    · rintro ⟨t, ⟨⟨_, r, hr, _, hfind⟩, hkind⟩, rfl⟩
      exact ⟨t, ⟨⟨r.name, ⟨r, hr, rfl⟩, hfind⟩, hkind⟩, rfl⟩

/-- The dependencies of a definition are the definitions on which it depends. -/
theorem enumerates_dependencies (g : Grammar) : g.Enumerates g.dependencies g.DependsOn where
  mem h := h.mem
  iff {d} _ id := by
    simp only [dependencies, resolve, List.mem_map, List.mem_filterMap, List.mem_append,
      List.mem_flatMap]
    constructor
    · rintro ⟨t, ⟨name, ⟨r, hr, rfl⟩ | ⟨property, hproperty, hname⟩, hfind⟩, rfl⟩
      · exact ⟨t, .body ⟨r.span, r, hr, rfl, hfind⟩, rfl⟩
      · exact ⟨t, .property hproperty hname hfind, rfl⟩
    · rintro ⟨t, hdepends, rfl⟩
      cases hdepends with
      | body hleads =>
        obtain ⟨_, r, hr, _, hfind⟩ := hleads
        exact ⟨t, ⟨r.name, Or.inl ⟨r, hr, rfl⟩, hfind⟩, rfl⟩
      | @property property name hproperty hname hfind =>
        exact ⟨t, ⟨name, Or.inr ⟨property, hproperty, hname⟩, hfind⟩, rfl⟩

/-- The root or a highlight definition depends on the definition, directly or through others. -/
def InUse (g : Grammar) (root d : Definition) : Prop :=
  ∃ first ∈ g.definitions, (first = root ∨ first.kind = .highlight) ∧
    ReflTransGen g.DependsOn first d

/-- Whatever a chain of references to rules leads to from the root is used. -/
theorem inUse_of_refersToRule (hroot : root ∈ g.definitions)
    (h : ReflTransGen g.RefersToRule root d) : g.InUse root d :=
  ⟨root, hroot, Or.inl rfl, h.lift id fun _ _ hstep => .body hstep.1⟩

/-- No definition is in a grammar twice. -/
theorem nodup_definitions (g : Grammar) : g.definitions.Nodup := by
  have hnodup : (g.definitions.map Definition.id).Nodup := g.numbered ▸ List.nodup_range
  exact hnodup.of_map

/-- The rules of a grammar are its definitions of this kind. -/
theorem mem_rules : d ∈ g.rules ↔ d ∈ g.definitions ∧ d.kind = .rule := by
  simp [rules]

/-- The highlight definitions of a grammar are its definitions of this kind. -/
theorem mem_highlights : d ∈ g.highlights ↔ d ∈ g.definitions ∧ d.kind = .highlight := by
  simp [highlights]

/-- Just the rules that are not used are reported as unused. -/
theorem mem_unusedRules_iff (hroot : root ∈ g.definitions) (hkind : root.kind = .rule) :
    d ∈ g.unusedRules root.id ↔ d ∈ g.definitions ∧ d.kind = .rule ∧ ¬ g.InUse root d := by
  have hstart : root :: g.highlights ⊆ g.definitions := by
    intro first hfirst
    rcases List.mem_cons.mp hfirst with rfl | hfirst
    · exact hroot
    · exact (mem_highlights.mp hfirst).1
  have hnodup : (root :: g.highlights).Nodup := by
    refine List.nodup_cons.mpr ⟨fun hmem => ?_, g.nodup_definitions.filter _⟩
    have hhighlight := (mem_highlights.mp hmem).2
    rw [hkind] at hhighlight
    cases hhighlight
  have hused : d ∈ g.definitions →
      (d.id ∈ g.reachable g.dependencies (root.id :: g.highlights.map Definition.id) ↔
        g.InUse root d) := by
    intro hd
    have hiff := g.enumerates_dependencies.mem_reachable_iff hstart hnodup hd
    rw [List.map_cons] at hiff
    rw [hiff]
    constructor
    · rintro ⟨first, hfirst, hsteps⟩
      refine ⟨first, hstart hfirst, ?_, hsteps⟩
      exact (List.mem_cons.mp hfirst).imp_right fun hmem => (mem_highlights.mp hmem).2
    · rintro ⟨first, hmem, hfirst, hsteps⟩
      refine ⟨first, List.mem_cons.mpr (hfirst.imp_right fun h => ?_), hsteps⟩
      exact mem_highlights.mpr ⟨hmem, h⟩
  simp only [unusedRules, List.mem_filter, mem_rules, Bool.not_eq_true', List.contains_eq_mem,
    decide_eq_false_iff_not, and_assoc]
  constructor
  · rintro ⟨hd, hrule, hnot⟩
    exact ⟨hd, hrule, fun huse => hnot ((hused hd).mpr huse)⟩
  · rintro ⟨hd, hrule, hnot⟩
    exact ⟨hd, hrule, fun huse => hnot ((hused hd).mp huse)⟩

/-- A rule is found by its name among all definitions. -/
theorem rule?_eq_some_iff {name : String} :
    g.rule? name = some root ↔ g.find? name = some root ∧ root.kind = .rule := by
  simp [rule?, Option.filter_eq_some_iff]

/-- What the analysis of a grammar with a root says about unused rules. -/
theorem unused_of_rule? {name : String} (hroot : g.rule? name = some root) :
    (g.analyze (some name)).1.unused = (g.unusedRules root.id).map Definition.id ∧
      (g.analyze (some name)).2 = g.nameFindings ++ g.inlineCycleFindings ++
        (g.unusedRules root.id).map unusedFinding := by
  have hbind : (some name).bind g.rule? = some root := hroot
  simp only [analyze, hbind, and_self]

/-- What is found about names is not that a definition is unused. -/
theorem kind_ne_unusedDefinition_of_mem_nameFindings {f : Finding} (hf : f ∈ g.nameFindings) :
    f.kind ≠ .unusedDefinition := by
  simp only [nameFindings, List.mem_append, List.mem_flatMap, definitionNameFindings, unknown,
    undefinedReferences, List.mem_map] at hf
  rcases hf with ⟨_, _, rfl⟩ | ⟨_, _, ⟨_, _, rfl⟩ | ⟨_, _, rfl⟩⟩
  all_goals exact fun hkind => nomatch hkind

/-- What is found about inline cycles is not that a definition is unused. -/
theorem kind_ne_unusedDefinition_of_mem_inlineCycleFindings {f : Finding}
    (hf : f ∈ g.inlineCycleFindings) : f.kind ≠ .unusedDefinition := by
  obtain ⟨_, _, rfl⟩ := List.mem_map.mp hf
  exact fun hkind => nomatch hkind

end Grammar

/-- The finding warns, at the name of a definition, that nothing uses the definition. -/
structure Finding.IsAboutUnused (f : Finding) (d : Definition) : Prop where
  kind : f.kind = .unusedDefinition
  severity : f.severity = .warning
  place : f.span = d.nameSpan
  message : f.message = s!"`{d.name}` is never used"
  notes : f.notes = []

namespace Grammar

variable {g : Grammar} {root d t : Definition}

/-- The finding about an unused definition is about this definition. -/
theorem isAboutUnused_unusedFinding (d : Definition) : (unusedFinding d).IsAboutUnused d :=
  ⟨rfl, rfl, rfl, rfl, rfl⟩

/-- Of the findings of an analysis, those about unused rules are as many as such rules, and in their
order. -/
theorem unusedFindings_of_rule? {name : String} (hroot : g.rule? name = some root) :
    List.Forall₂ Finding.IsAboutUnused
      ((g.analyze (some name)).2.filter fun f => f.kind = .unusedDefinition)
      (g.unusedRules root.id) := by
  have hnames : g.nameFindings.filter (fun f => f.kind = .unusedDefinition) = [] :=
    List.filter_eq_nil_iff.mpr fun f hf => by
      simpa using kind_ne_unusedDefinition_of_mem_nameFindings hf
  have hcycles : g.inlineCycleFindings.filter (fun f => f.kind = .unusedDefinition) = [] :=
    List.filter_eq_nil_iff.mpr fun f hf => by
      simpa using kind_ne_unusedDefinition_of_mem_inlineCycleFindings hf
  have hunused : ((g.unusedRules root.id).map unusedFinding).filter
      (fun f => f.kind = .unusedDefinition) = (g.unusedRules root.id).map unusedFinding :=
    List.filter_eq_self.mpr fun f hf => by
      obtain ⟨d, _, rfl⟩ := List.mem_map.mp hf
      rfl
  rw [(unused_of_rule? hroot).2, List.filter_append, List.filter_append, hnames, hcycles, hunused,
    List.nil_append, List.nil_append, List.forall₂_map_left_iff]
  exact List.forall₂_same.mpr fun d _ => isAboutUnused_unusedFinding d

end Grammar

end Peg
