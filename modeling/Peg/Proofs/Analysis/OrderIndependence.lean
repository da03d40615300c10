import Peg.Compiler
import Peg.Proofs.Analysis.CycleReport
import Peg.Proofs.Analysis.CycleStart
import Peg.Proofs.Analysis.FinishingOrder

/-!
# Rejection and the order of definitions

Only inline cycles keep a grammar from being compiled. A cycle that runs through inline definitions
alone is found in every order of the definitions. A cycle that also runs through calls is found if
the search comes to it at an inline definition, and may be taken for recursion if the search comes
to it at a call. So the order matters only where inline definitions lie on mixed cycles alone, and
there only if some start of the search leads to a call on every such cycle by another way.
-/

namespace Peg

open Grammar

namespace Grammar

variable {g g' : Grammar} {f : Finding}

/-- An unknown attribute is worth a warning. -/
theorem isError_eq_false_of_mem_unknown {kind : FindingKind} (hkind : kind.severity = .warning)
    {known : List String} {attributes : Attributes} (hf : f ∈ unknown kind known attributes) :
    f.isError = false := by
  obtain ⟨a, _, rfl⟩ := List.mem_map.mp hf
  simp [Finding.isError, Finding.severity, Finding.detailed, hkind]

/-- Unknown attributes and names without definitions are worth warnings only. -/
theorem isError_eq_false_of_mem_nameFindings (hf : f ∈ g.nameFindings) : f.isError = false := by
  rcases List.mem_append.mp hf with hoption | hdefinition
  · exact isError_eq_false_of_mem_unknown rfl hoption
  · obtain ⟨d, _, hf⟩ := List.mem_flatMap.mp hdefinition
    rcases List.mem_append.mp hf with hproperty | hreference
    · exact isError_eq_false_of_mem_unknown rfl hproperty
    · obtain ⟨r, _, rfl⟩ := List.mem_map.mp hreference
      rfl

/-- Every inline cycle is an error. -/
theorem isError_of_mem_inlineCycleFindings (hf : f ∈ g.inlineCycleFindings) :
    f.isError = true := by
  obtain ⟨c, _, rfl⟩ := List.mem_map.mp hf
  rfl

/-- Among the findings of an analysis, just those about inline cycles are errors. -/
theorem exists_error_iff (g : Grammar) (root : Option String) :
    (∃ f ∈ (g.analyze root).2, f.isError = true) ↔ g.inlineCycleFindings ≠ [] := by
  have hmem : ∀ f, f ∈ (g.analyze root).2 ↔ f ∈ g.nameFindings ∨ f ∈ g.inlineCycleFindings ∨
      ∃ r, root.bind g.rule? = some r ∧ f ∈ (g.unusedRules r.id).map unusedFinding := by
    intro f
    unfold analyze
    cases root.bind g.rule? with
    | none => simp
    | some r => simp
  constructor
  · rintro ⟨f, hf, herror⟩ hnone
    rcases (hmem f).mp hf with hname | hcycle | ⟨r, _, hunused⟩
    · rw [isError_eq_false_of_mem_nameFindings hname] at herror
      cases herror
    · simp [hnone] at hcycle
    · obtain ⟨d, _, rfl⟩ := List.mem_map.mp hunused
      cases herror
  · intro hsome
    obtain ⟨f, hf⟩ := List.exists_mem_of_ne_nil _ hsome
    exact ⟨f, (hmem f).mpr (Or.inr (Or.inl hf)), isError_of_mem_inlineCycleFindings hf⟩

/-- Inline definitions lie on cycles of references only if some cycle runs through inline
definitions alone. -/
def CyclesInline (g : Grammar) : Prop :=
  ∀ d, d.isInline = true → Relation.TransGen g.Leads d d →
    ∃ e, Relation.TransGen g.InlineRefers e e

/-- A trail of references that has gone through a definition leads from its first one to its end. -/
theorem Trail.leads {first t : Definition} {path : List Definition} {spans : List Span}
    (h : g.Trail first path spans t) (hpath : path ≠ []) : Relation.TransGen g.Leads first t := by
  induction h with
  | start => exact absurd rfl hpath
  | @step path spans d t span htrail hrefers ih =>
    cases htrail with
    | start => exact .single ⟨span, hrefers⟩
    | step => exact .tail (ih (by simp)) ⟨span, hrefers⟩

/-- What is reported is a cycle of references through an inline definition. -/
theorem exists_cycle_of_inlineCycleFindings (h : g.inlineCycleFindings ≠ []) :
    ∃ d, d.isInline = true ∧ Relation.TransGen g.Leads d d := by
  obtain ⟨f, hf⟩ := List.exists_mem_of_ne_nil _ h
  obtain ⟨c, hc, rfl⟩ := List.mem_map.mp hf
  obtain ⟨first, rest, _, hinline, _, htrail, _⟩ := InlineCycle.genuine_of_mem hc
  exact ⟨first, hinline, htrail.leads (by simp)⟩

/-- Nothing is reported just if no cycle has been found. -/
theorem inlineCycleFindings_eq_nil_iff : g.inlineCycleFindings = [] ↔ g.inlineCycles = [] :=
  List.map_eq_nil_iff

/-- Where inline definitions lie on cycles only along with a purely inline one, just such a cycle is
reported. -/
theorem inlineCycleFindings_ne_nil_iff (h : g.CyclesInline) :
    g.inlineCycleFindings ≠ [] ↔ ∃ d, Relation.TransGen g.InlineRefers d d := by
  constructor
  · intro hfindings
    obtain ⟨d, hinline, hcycle⟩ := exists_cycle_of_inlineCycleFindings hfindings
    exact h d hinline hcycle
  · rintro ⟨d, hcycle⟩ hnone
    exact InlineCycle.acyclic_of_inlineCycles_eq_nil (inlineCycleFindings_eq_nil_iff.mp hnone) d
      hcycle

/-- A cycle through inline definitions alone is there in every order. -/
theorem Rearranged.inlineCycle (h : g.Rearranged g')
    (hcycle : ∃ d, Relation.TransGen g.InlineRefers d d) :
    ∃ d, Relation.TransGen g'.InlineRefers d d := by
  obtain ⟨d, hcycle⟩ := hcycle
  obtain ⟨d', hd', hsame⟩ := h.counterpart (mem_of_cycle InlineRefers.mem hcycle)
  exact ⟨d', Rearranged.cycle InlineRefers.mem h.inlineRefers hd' hsame hcycle⟩

/-- A cycle of references is there in every order. -/
theorem Rearranged.leadsCycle (h : g.Rearranged g') {d d' : Definition}
    (hd' : d' ∈ g'.definitions) (hsame : d'.unplaced = d.unplaced)
    (hcycle : Relation.TransGen g.Leads d d) : Relation.TransGen g'.Leads d' d' :=
  Rearranged.cycle Leads.mem h.leads hd' hsame hcycle

/-- Inline definitions lie on cycles only along with a purely inline one in every order, or in
none. -/
theorem Rearranged.cyclesInline (h : g.Rearranged g') (hg : g.CyclesInline) :
    g'.CyclesInline := by
  intro d' hinline hcycle
  obtain ⟨d, hd, hsame⟩ := h.symm.counterpart (mem_of_cycle Leads.mem hcycle)
  have hback := h.symm.leadsCycle hd hsame hcycle
  exact h.inlineCycle (hg d ((Definition.isInline_eq_of_unplaced hsame).trans hinline) hback)

/-- References lead from the counterpart to the counterpart. -/
theorem Rearranged.leadsOn (h : g.Rearranged g') {x x' t : Definition}
    (hx' : x' ∈ g'.definitions) (hsame : x'.unplaced = x.unplaced)
    (hleads : Relation.ReflTransGen g.Leads x t) :
    ∃ t' ∈ g'.definitions, t'.unplaced = t.unplaced ∧
      Relation.ReflTransGen g'.Leads x' t' := by
  induction hleads with
  | refl => exact ⟨x', hx', hsame, .refl⟩
  | tail _ hlast ih =>
    obtain ⟨e', _, hesame, hway⟩ := ih
    obtain ⟨t', htsame, hlast'⟩ := h.leads hesame hlast
    exact ⟨t', hlast'.mem, htsame, .tail hway hlast'⟩

/-- A way around a definition leads around its counterpart. -/
theorem Rearranged.leadsAround (h : g.Rearranged g') {d d' x x' t : Definition}
    (hd : d ∈ g.definitions) (hdsame : d'.unplaced = d.unplaced) (hx : x ∈ g.definitions)
    (hxsame : x'.unplaced = x.unplaced) (haround : g.LeadsAround d x t) :
    ∃ t', t'.unplaced = t.unplaced ∧ g'.LeadsAround d' x' t' := by
  induction haround with
  | refl => exact ⟨x', hxsame, .refl⟩
  | tail hway hlast ih =>
    obtain ⟨hne, hleads⟩ := hlast
    obtain ⟨e', hesame, hway'⟩ := ih
    obtain ⟨t', htsame, hleads'⟩ := h.leads hesame hleads
    have hne' : e' ≠ d' := by
      rintro rfl
      exact hne (eq_of_unplaced_eq (LeadsAround.mem hway hx) hd (hesame.symm.trans hdsame))
    exact ⟨t', htsame, .tail hway' ⟨hne', hleads'⟩⟩

/-- Behind the counterpart lies the same cycle. -/
theorem Rearranged.cycleBehind (h : g.Rearranged g') {d d' x x' : Definition}
    (hd' : d' ∈ g'.definitions) (hdsame : d'.unplaced = d.unplaced) (hx : x ∈ g.definitions)
    (hx' : x' ∈ g'.definitions) (hxsame : x'.unplaced = x.unplaced)
    (hbehind : g.CycleBehind d x) : g'.CycleBehind d' x' := by
  refine Rearranged.cycle (fun hstep => hstep.1.mem) ?_ hd' hdsame hbehind
  rintro e e' t hesame ⟨hleads, hbeyond⟩
  obtain ⟨t', htsame, hleads'⟩ := h.leads hesame hleads
  refine ⟨t', htsame, hleads', ?_⟩
  rcases hbeyond with rfl | hbeyond
  · exact Or.inl (eq_of_unplaced_eq hleads'.mem hd' (htsame.trans hdsame.symm))
  · refine Or.inr fun haround' => hbeyond ?_
    obtain ⟨t'', hsame, haround⟩ := h.symm.leadsAround hd' hdsame.symm hx' hxsame.symm haround'
    rwa [eq_of_unplaced_eq (haround.mem hx) hleads.mem (hsame.trans htsame)] at haround

end Grammar

namespace Compiler

/-- The analysis has found an error just if an inline cycle is reported. -/
theorem hasErrors_iff (c : Compiler) :
    c.hasErrors = true ↔ c.grammar.inlineCycleFindings ≠ [] :=
  List.any_eq_true.trans (exists_error_iff c.grammar c.config.root)

/-- Nothing is generated for the parser and nothing else is said, if and only if there is an inline
cycle. -/
theorem compileParser_eq_iff (c : Compiler) :
    c.compileParser = .failed .none c.messages ↔ c.grammar.inlineCycleFindings ≠ [] := by
  rw [← hasErrors_iff]
  unfold compileParser
  split
  next herrors => simp [herrors]
  next herrors =>
    simp only [herrors]
    split <;> simp [Output.failed, Output.generated]

/-- No highlighting is derived and nothing else is said, if and only if there is an inline cycle. -/
theorem deriveHighlighting_eq_iff (c : Compiler) :
    c.deriveHighlighting = .failed none c.messages ↔ c.grammar.inlineCycleFindings ≠ [] := by
  rw [← hasErrors_iff]
  unfold deriveHighlighting
  split
  next herrors => simp [herrors]
  next herrors =>
    simp only [herrors]
    split <;> simp [Output.failed, Output.generated]

end Compiler

namespace Grammar

/-- The definitions `@inline A = B;` and `B = A;` in this order. -/
def inlineFirst : Grammar where
  definitions :=
    [⟨0, .rule, "A", ⟨8, 9⟩, .marked ⟨0, 13⟩ .inline (.reference ⟨12, 13⟩ "B"), [], ⟨0, 14⟩⟩,
      ⟨1, .rule, "B", ⟨15, 16⟩, .reference ⟨19, 20⟩ "A", [], ⟨15, 21⟩⟩]
  options := []
  numbered := rfl
  distinct := show (["A", "B"].map Text.LetterCase.lowerText).Nodup by decide

/-- The same definitions with `B` first. -/
def callFirst : Grammar where
  definitions :=
    [⟨0, .rule, "B", ⟨0, 1⟩, .reference ⟨4, 5⟩ "A", [], ⟨0, 6⟩⟩,
      ⟨1, .rule, "A", ⟨15, 16⟩, .marked ⟨7, 20⟩ .inline (.reference ⟨19, 20⟩ "B"), [], ⟨7, 21⟩⟩]
  options := []
  numbered := rfl
  distinct := show (["B", "A"].map Text.LetterCase.lowerText).Nodup by decide

/-- The two definitions are the same in both orders. -/
theorem inlineFirst_rearranged : inlineFirst.Rearranged callFirst := by
  unfold Rearranged
  decide

/-- A cycle through an inline definition and a call is reported in one order and not in the
other. -/
theorem mixedCycle_depends_on_order :
    inlineFirst.Rearranged callFirst ∧ inlineFirst.inlineCycleFindings ≠ [] ∧
      callFirst.inlineCycleFindings = [] :=
  ⟨inlineFirst_rearranged, by decide, by decide⟩

/-- Where an inline definition lies on a cycle of references only if some cycle runs through inline
definitions alone, a rearranged grammar is rejected just when the grammar itself is. Otherwise too,
it is rejected if all definitions that lead to some inline definition have a cycle through this one
behind it, and if an inline definition on a cycle comes before all others that lead to it. -/
theorem rejection_of_rearranged {g g' : Grammar} (h : g.Rearranged g') :
    (g.CyclesInline →
      (g.inlineCycleFindings ≠ [] ↔ g'.inlineCycleFindings ≠ []) ∧
      ∀ c c' : Compiler, c.grammar = g → c'.grammar = g' →
        (c.compileParser = .failed .none c.messages ↔
          c'.compileParser = .failed .none c'.messages) ∧
        (c.deriveHighlighting = .failed none c.messages ↔
          c'.deriveHighlighting = .failed none c'.messages)) ∧
    (∀ d ∈ g.definitions, d.isInline = true →
      (∀ x ∈ g.definitions, Relation.ReflTransGen g.Leads x d → g.CycleBehind d x) →
      g'.inlineCycleFindings ≠ []) ∧
    ∀ d d' front back, d.isInline = true → Relation.TransGen g.Leads d d →
      d'.unplaced = d.unplaced → g'.definitions = front ++ d' :: back →
      (∀ x ∈ front, ¬ Relation.TransGen g'.Leads x d') → g'.inlineCycleFindings ≠ [] := by
  refine ⟨?_, ?_, ?_⟩
  · intro hg
    have hfindings : g.inlineCycleFindings ≠ [] ↔ g'.inlineCycleFindings ≠ [] := by
      rw [inlineCycleFindings_ne_nil_iff hg, inlineCycleFindings_ne_nil_iff (h.cyclesInline hg)]
      exact ⟨h.inlineCycle, h.symm.inlineCycle⟩
    refine ⟨hfindings, ?_⟩
    rintro c c' rfl rfl
    exact ⟨c.compileParser_eq_iff.trans (hfindings.trans c'.compileParser_eq_iff.symm),
      c.deriveHighlighting_eq_iff.trans (hfindings.trans c'.deriveHighlighting_eq_iff.symm)⟩
  · intro d hd hinline hbehind hnone
    obtain ⟨d', hd', hsame⟩ := h.counterpart hd
    have hbehind' : ∀ x' ∈ g'.definitions, Relation.ReflTransGen g'.Leads x' d' →
        g'.CycleBehind d' x' := by
      intro x' hx' hleads'
      obtain ⟨x, hx, hxsame⟩ := h.symm.counterpart hx'
      obtain ⟨t, ht, htsame, hleads⟩ := h.symm.leadsOn hx hxsame hleads'
      obtain rfl : t = d := eq_of_unplaced_eq ht hd (htsame.trans hsame)
      exact h.cycleBehind hd' hsame hx hx' hxsame.symm (hbehind x hx hleads)
    exact InlineCycle.inlineCycles_ne_nil_of_cycleBehind List.prefix_rfl
      ((Definition.isInline_eq_of_unplaced hsame).trans hinline) hbehind' hd' .refl
      (inlineCycleFindings_eq_nil_iff.mp hnone)
  · intro d d' front back hinline hcycle hsame hdefinitions hfront hnone
    have hd' : d' ∈ g'.definitions := by simp [hdefinitions]
    have hstarts : front ++ [d'] <+: g'.definitions := ⟨back, by simp [hdefinitions]⟩
    have hcycle' := h.leadsCycle hd' hsame hcycle
    have hbehind : ∀ x ∈ front ++ [d'], Relation.ReflTransGen g'.Leads x d' →
        g'.CycleBehind d' x := by
      intro x hx hleads
      rcases Relation.reflTransGen_iff_eq_or_transGen.mp hleads with rfl | hleads
      · exact cycleBehind_self hcycle'
      · rcases List.mem_append.mp hx with hx | hx
        · exact absurd hleads (hfront x hx)
        · rw [List.mem_singleton.mp hx]
          exact cycleBehind_self hcycle'
    exact InlineCycle.inlineCycles_ne_nil_of_cycleBehind hstarts
      ((Definition.isInline_eq_of_unplaced hsame).trans hinline) hbehind
      (List.mem_append_right front (List.mem_singleton_self d')) .refl
      (inlineCycleFindings_eq_nil_iff.mp hnone)

/-- Two inline definitions that refer to each other, with the given names. -/
def inlineLoop (first second : String)
    (h : ([first, second].map Text.LetterCase.lowerText).Nodup) : Grammar where
  definitions :=
    [⟨0, .rule, first, ⟨8, 9⟩, .marked ⟨0, 13⟩ .inline (.reference ⟨12, 13⟩ second), [], ⟨0, 14⟩⟩,
      ⟨1, .rule, second, ⟨23, 24⟩, .marked ⟨15, 28⟩ .inline (.reference ⟨27, 28⟩ first), [],
        ⟨15, 29⟩⟩]
  options := []
  numbered := rfl
  distinct := h

/-- The definitions `B = A;`, `C = A;`, `@inline A = B C;` and `L = "l";` in this order. -/
def twoCalls : Grammar where
  definitions :=
    [⟨0, .rule, "B", ⟨0, 1⟩, .reference ⟨4, 5⟩ "A", [], ⟨0, 6⟩⟩,
      ⟨1, .rule, "C", ⟨7, 8⟩, .reference ⟨11, 12⟩ "A", [], ⟨7, 13⟩⟩,
      ⟨2, .rule, "A", ⟨22, 23⟩, .marked ⟨14, 29⟩ .inline
        (.sequence ⟨26, 29⟩ (.reference ⟨26, 27⟩ "B") (.reference ⟨28, 29⟩ "C")), [], ⟨14, 30⟩⟩,
      ⟨3, .rule, "L", ⟨31, 32⟩, .text ⟨35, 38⟩ "l", [], ⟨31, 39⟩⟩]
  options := []
  numbered := rfl
  distinct := show (["B", "C", "A", "L"].map Text.LetterCase.lowerText).Nodup by decide

/-- The same definitions with `L` first and `A` next. -/
def leafFirst : Grammar where
  definitions :=
    [⟨0, .rule, "L", ⟨0, 1⟩, .text ⟨4, 7⟩ "l", [], ⟨0, 8⟩⟩,
      ⟨1, .rule, "A", ⟨17, 18⟩, .marked ⟨9, 24⟩ .inline
        (.sequence ⟨21, 24⟩ (.reference ⟨21, 22⟩ "B") (.reference ⟨23, 24⟩ "C")), [], ⟨9, 25⟩⟩,
      ⟨2, .rule, "C", ⟨26, 27⟩, .reference ⟨30, 31⟩ "A", [], ⟨26, 32⟩⟩,
      ⟨3, .rule, "B", ⟨33, 34⟩, .reference ⟨37, 38⟩ "A", [], ⟨33, 39⟩⟩]
  options := []
  numbered := rfl
  distinct := show (["L", "A", "C", "B"].map Text.LetterCase.lowerText).Nodup by decide

/-- The four definitions are the same in both orders. -/
theorem twoCalls_rearranged : twoCalls.Rearranged leafFirst := by
  unfold Rearranged
  decide

/-- Behind the inline definition, seen from either call, lies the cycle through the other call. -/
theorem twoCalls_cycleBehind : ∀ x ∈ twoCalls.definitions,
    Relation.ReflTransGen twoCalls.Leads x twoCalls.definitions[2] →
      twoCalls.CycleBehind twoCalls.definitions[2] x := by
  have hAB : twoCalls.Leads twoCalls.definitions[2] twoCalls.definitions[0] :=
    ⟨⟨26, 27⟩, ⟨"B", ⟨26, 27⟩⟩, List.mem_cons_self, rfl, rfl⟩
  have hAC : twoCalls.Leads twoCalls.definitions[2] twoCalls.definitions[1] :=
    ⟨⟨28, 29⟩, ⟨"C", ⟨28, 29⟩⟩, List.mem_cons_of_mem _ List.mem_cons_self, rfl, rfl⟩
  have hBA : twoCalls.Leads twoCalls.definitions[0] twoCalls.definitions[2] :=
    ⟨⟨4, 5⟩, ⟨"A", ⟨4, 5⟩⟩, List.mem_cons_self, rfl, rfl⟩
  have hCA : twoCalls.Leads twoCalls.definitions[1] twoCalls.definitions[2] :=
    ⟨⟨11, 12⟩, ⟨"A", ⟨11, 12⟩⟩, List.mem_cons_self, rfl, rfl⟩
  have honlyB : ∀ t, twoCalls.Leads twoCalls.definitions[0] t → t = twoCalls.definitions[2] := by
    rintro t ⟨_, r, hr, _, hfind⟩
    obtain rfl : r = ⟨"A", ⟨4, 5⟩⟩ := List.mem_singleton.mp hr
    exact (Option.some.inj hfind).symm
  have honlyC : ∀ t, twoCalls.Leads twoCalls.definitions[1] t → t = twoCalls.definitions[2] := by
    rintro t ⟨_, r, hr, _, hfind⟩
    obtain rfl : r = ⟨"A", ⟨11, 12⟩⟩ := List.mem_singleton.mp hr
    exact (Option.some.inj hfind).symm
  intro x hx hleads
  simp only [twoCalls, List.mem_cons, List.not_mem_nil, or_false] at hx
  rcases hx with rfl | rfl | rfl | rfl
  · have hfar : ¬ twoCalls.LeadsAround twoCalls.definitions[2] twoCalls.definitions[0]
        twoCalls.definitions[1] := by
      intro haround
      exact absurd (haround.eq_or_eq honlyB) (by decide)
    exact .tail (.single ⟨hAC, Or.inr hfar⟩) ⟨hCA, Or.inl rfl⟩
  · have hfar : ¬ twoCalls.LeadsAround twoCalls.definitions[2] twoCalls.definitions[1]
        twoCalls.definitions[0] := by
      intro haround
      exact absurd (haround.eq_or_eq honlyC) (by decide)
    exact .tail (.single ⟨hAB, Or.inr hfar⟩) ⟨hBA, Or.inl rfl⟩
  · exact cycleBehind_self (.tail (.single hAB) hBA)
  · rcases Relation.ReflTransGen.cases_head hleads with heq | ⟨_, ⟨_, r, hr, _⟩, _⟩
    · exact absurd heq (by decide)
    · exact absurd hr List.not_mem_nil

/-- Rejection in every order: two inline definitions that refer to each other, and an inline
definition with two calls that refer back to it. Rejection in one order: a cycle with the inline
definition in front, or only behind a definition that does not lead to it. -/
theorem inlineLoop_rejected_in_both_orders :
    (inlineLoop "A" "B" (by decide)).Rearranged (inlineLoop "B" "A" (by decide)) ∧
    (inlineLoop "A" "B" (by decide)).CyclesInline ∧
    (inlineLoop "A" "B" (by decide)).inlineCycleFindings ≠ [] ∧
    (inlineLoop "B" "A" (by decide)).inlineCycleFindings ≠ [] ∧
    callFirst.Rearranged inlineFirst ∧ inlineFirst.inlineCycleFindings ≠ [] ∧
    twoCalls.inlineCycleFindings ≠ [] ∧
    twoCalls.Rearranged leafFirst ∧ leafFirst.inlineCycleFindings ≠ [] := by
  let loop := inlineLoop "A" "B" (by decide)
  have hloop : loop.Rearranged (inlineLoop "B" "A" (by decide)) := by
    unfold Rearranged
    decide
  have hthere : loop.InlineRefers loop.definitions[0] loop.definitions[1] :=
    ⟨rfl, rfl, ⟨12, 13⟩, ⟨"B", ⟨12, 13⟩⟩, List.mem_cons_self, rfl, rfl⟩
  have hback : loop.InlineRefers loop.definitions[1] loop.definitions[0] :=
    ⟨rfl, rfl, ⟨27, 28⟩, ⟨"A", ⟨27, 28⟩⟩, List.mem_cons_self, rfl, rfl⟩
  have hinline : loop.CyclesInline := fun _ _ _ => ⟨_, .tail (.single hthere) hback⟩
  have hfindings : loop.inlineCycleFindings ≠ [] := by decide
  have hmixed : callFirst.Rearranged inlineFirst := inlineFirst_rearranged.symm
  have hcall : callFirst.Leads callFirst.definitions[1] callFirst.definitions[0] :=
    ⟨⟨19, 20⟩, ⟨"B", ⟨19, 20⟩⟩, List.mem_cons_self, rfl, rfl⟩
  have hreturn : callFirst.Leads callFirst.definitions[0] callFirst.definitions[1] :=
    ⟨⟨4, 5⟩, ⟨"A", ⟨4, 5⟩⟩, List.mem_cons_self, rfl, rfl⟩
  have hA : Relation.TransGen twoCalls.Leads twoCalls.definitions[2] twoCalls.definitions[2] :=
    .tail (.single ⟨⟨26, 27⟩, ⟨"B", ⟨26, 27⟩⟩, List.mem_cons_self, rfl, rfl⟩)
      ⟨⟨4, 5⟩, ⟨"A", ⟨4, 5⟩⟩, List.mem_cons_self, rfl, rfl⟩
  have hleaf : ∀ x ∈ [leafFirst.definitions[0]],
      ¬ Relation.TransGen leafFirst.Leads x leafFirst.definitions[1] := by
    intro x hx hleads
    obtain rfl := List.mem_singleton.mp hx
    obtain ⟨_, ⟨_, r, hr, _⟩, _⟩ := Relation.TransGen.head'_iff.mp hleads
    cases hr
  refine ⟨hloop, hinline, hfindings, ?_, hmixed, ?_, ?_, twoCalls_rearranged, ?_⟩
  · exact ((rejection_of_rearranged hloop).1 hinline).1.mp hfindings
  · exact (rejection_of_rearranged hmixed).2.2 callFirst.definitions[1] inlineFirst.definitions[0]
      [] _ rfl (.tail (.single hcall) hreturn) rfl rfl (by simp)
  · exact (rejection_of_rearranged (List.Perm.refl _)).2.1 twoCalls.definitions[2]
      (List.getElem_mem _) rfl twoCalls_cycleBehind
  · exact (rejection_of_rearranged twoCalls_rearranged).2.2 twoCalls.definitions[2]
      leafFirst.definitions[1] [leafFirst.definitions[0]] _ rfl hA rfl rfl hleaf

end Grammar

end Peg
