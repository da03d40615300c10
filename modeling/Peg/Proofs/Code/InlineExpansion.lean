import Peg.Code.Lowering
import Peg.Proofs.Analysis.Closure
import Peg.Proofs.Analysis.CycleReport
import Peg.Proofs.Analysis.FinishingOrder
import Peg.Proofs.Except

/-!
# Inline definitions expand

The search for inline cycles and the expansion of inline definitions find the same obstacles. The
search reports only closed walks and reports one if there is any, and without one every expansion
comes to an end.
-/

namespace Peg

/-- Whether an error is about an element itself and not about what a reference leads to. -/
def LoweringError.isAboutElement : LoweringError → Bool
  | .unsupportedElement _ _ | .invalidPattern _ _ _ => true
  | _ => false

/-- Any other error is met at a reference. -/
theorem Element.exists_reference_of_lower {label : String}
    {follow : Reference → Except LoweringError Combinator} {e : Element} {error : LoweringError}
    (hother : error.isAboutElement = false) (h : e.lower label follow = .error error) :
    ∃ r ∈ e.references, follow r = .error error := by
  induction e with
  | text => cases h
  | regex =>
    simp only [lower] at h
    split at h
    · cases h
    · cases h
      cases hother
  | number =>
    cases h
    cases hother
  | boolean =>
    cases h
    cases hother
  | reference s n => exact ⟨⟨n, s⟩, by simp [references], h⟩
  | sequence _ left right ihl ihr | choice _ left right ihl ihr =>
    simp only [lower, bind_eq_error_iff] at h
    rcases h with hleft | ⟨l, _, hright | ⟨r, _, h⟩⟩
    · obtain ⟨ref, href, herror⟩ := ihl hleft
      exact ⟨ref, List.mem_append_left _ href, herror⟩
    · obtain ⟨ref, href, herror⟩ := ihr hright
      exact ⟨ref, List.mem_append_right _ href, herror⟩
    · cases h
  | optional _ body ih | zeroOrMore _ body ih | oneOrMore _ body ih | not _ body ih
  | marked _ _ body ih =>
    simp only [lower, bind_eq_error_iff] at h
    rcases h with hbody | ⟨b, _, h⟩
    · exact ih hbody
    · cases h

namespace Grammar

variable {g : Grammar} {root : Nat} {d t : Definition} {r : Reference}

/-- The definitions that are being expanded lead, by references between inline definitions, to the
one whose body is lowered. -/
structure Expanding (g : Grammar) (root : Nat) (expanding : List Nat) (d : Definition) : Prop where
  mem : d ∈ g.definitions
  reachable : d.id ∈ g.reachable g.ruleTargets [root]
  nodup : expanding.Nodup
  leads : ∀ id ∈ expanding, d.isInline = true ∧
    ∃ e ∈ g.definitions, e.id = id ∧ (e = d ∨ Relation.TransGen g.InlineRefers e d)

/-- No more definitions are being expanded at once than the grammar has. -/
theorem Expanding.length_le {expanding : List Nat} (h : g.Expanding root expanding d) :
    expanding.length ≤ g.size := by
  refine length_le_of_nodup h.nodup fun id hid => ?_
  obtain ⟨_, e, he, rfl, _⟩ := h.leads id hid
  exact id_lt_size he

/-- A reference to a definition that is being expanded closes a cycle. -/
theorem Expanding.cycle {expanding : List Nat} (h : g.Expanding root expanding d)
    (hr : r ∈ d.body.references) (hfind : g.find? r.name = some t) (ht : t.isInline = true)
    (hmem : t.id ∈ expanding) : Relation.TransGen g.InlineRefers t t := by
  obtain ⟨hinline, e, he, hid, hleads⟩ := h.leads t.id hmem
  obtain rfl := eq_of_id_eq he (mem_of_find? hfind) hid
  have hrefers : g.InlineRefers d e := ⟨hinline, ht, r.span, r, hr, rfl, hfind⟩
  rcases hleads with rfl | hpath
  · exact .single hrefers
  · exact .tail hpath hrefers

/-- The expansion of a definition goes on in its body. -/
theorem Expanding.enter {expanding : List Nat} (hroot : root < g.size)
    (h : g.Expanding root expanding d) (hr : r ∈ d.body.references)
    (hfind : g.find? r.name = some t) (hkind : t.kind = .rule) (ht : t.isInline = true)
    (hnew : t.id ∉ expanding) : g.Expanding root (t.id :: expanding) t where
  mem := mem_of_find? hfind
  reachable := mem_reachable_of_refers hroot h.mem h.reachable hr hfind hkind
  nodup := List.nodup_cons.mpr ⟨hnew, h.nodup⟩
  leads id hid := by
    refine ⟨ht, ?_⟩
    rcases List.mem_cons.mp hid with rfl | hid
    · exact ⟨t, mem_of_find? hfind, rfl, Or.inl rfl⟩
    · obtain ⟨hinline, e, he, hid, hleads⟩ := h.leads id hid
      have hrefers : g.InlineRefers d t := ⟨hinline, ht, r.span, r, hr, rfl, hfind⟩
      refine ⟨e, he, hid, Or.inr ?_⟩
      rcases hleads with rfl | hpath
      · exact .single hrefers
      · exact .tail hpath hrefers

/-- Without cycles, no reference expands into itself, and the budget is never used up. -/
theorem lowerReference_ne_inlineCycle (hroot : root < g.size) (hnone : g.inlineCycles = [])
    {budget : Nat} {expanding : List Nat} (h : g.Expanding root expanding d)
    (hbudget : g.size < budget + expanding.length) (hr : r ∈ d.body.references) {name : String}
    {span : Span} :
    g.lowerReference (g.callableRules root) budget expanding r ≠
      .error (.inlineCycle name span) := by
  induction budget generalizing expanding d r with
  | zero =>
    have hlength := h.length_le
    omega
  | succ budget ih =>
    intro herror
    simp only [lowerReference] at herror
    split at herror
    · cases herror
    next t hfind =>
      split at herror
      · cases herror
      next hkind =>
        split at herror
        · cases herror
        next hcall =>
          have hrule : t.kind = .rule := by
            cases hk : t.kind with
            | rule => rfl
            | highlight => exact absurd hk hkind
          have hnot : t.id ∉ g.callableRules root := List.idxOf?_eq_none_iff.mp hcall
          have hreachable := mem_reachable_of_refers hroot h.mem h.reachable hr hfind hrule
          have hinline := isInline_of_not_mem_callableRules (mem_of_find? hfind) hreachable hnot
          split at herror
          next hagain =>
            have hmem : t.id ∈ expanding := List.contains_iff_mem.mp hagain
            exact InlineCycle.acyclic_of_inlineCycles_eq_nil hnone t
              (h.cycle hr hfind hinline hmem)
          next hagain =>
            have hnew : t.id ∉ expanding := fun hmem =>
              hagain (List.contains_iff_mem.mpr hmem)
            have henter := h.enter hroot hr hfind hrule hinline hnew
            obtain ⟨r', hr', herror'⟩ := Element.exists_reference_of_lower rfl herror
            exact ih henter (by simp only [List.length_cons]; omega) hr' herror'

/-- Without cycles, the lowering of a grammar never meets one. -/
theorem lower_ne_inlineCycle (hnone : g.inlineCycles = []) (root : Option String) (name : String)
    (span : Span) : g.lower (g.analyze root).1 ≠ .error (.inlineCycle name span) := by
  intro herror
  cases hroot : root.bind g.rule? with
  | none =>
    simp only [analyze, hroot, lower] at herror
    cases herror
  | some d =>
    obtain ⟨rootName, _, hrule⟩ := Option.bind_eq_some_iff.mp hroot
    have hlt : d.id < g.size := id_lt_size (mem_of_rule? hrule)
    simp only [analyze, hroot, lower, bind_eq_error_iff] at herror
    rcases herror with hrules | ⟨rules, _, hprogram⟩
    · obtain ⟨e, he, herror⟩ := exists_mem_of_mapM_eq_error hrules
      obtain ⟨id, hid, hget⟩ := List.mem_filterMap.mp he
      have hmem : e ∈ g.definitions := mem_of_get? hget
      have hreachable : e.id ∈ g.reachable g.ruleTargets [d.id] := by
        rw [id_of_get? hget]
        exact (List.mem_filter.mp hid).1
      have hstart : g.Expanding d.id [] e := ⟨hmem, hreachable, .nil, by simp⟩
      simp only [lowerRule, bind_eq_error_iff] at herror
      rcases herror with hbody | ⟨body, _, hbody⟩
      · obtain ⟨r, hr, hreference⟩ := Element.exists_reference_of_lower rfl hbody
        exact lowerReference_ne_inlineCycle hlt hnone hstart (Nat.lt_succ_self _) hr hreference
      · cases hbody
    · split at hprogram
      · cases hprogram
      · cases hprogram

/-- Every finding about an inline cycle is about a closed walk of references that starts and ends at
an inline definition and visits nothing else twice. A cycle of references between inline definitions
is not overlooked, so a grammar without findings expands for every root. -/
theorem inlineCycleFindings_exact (g : Grammar) :
    (∀ f ∈ g.inlineCycleFindings, ∃ first rest, f.IsAboutCycle g first rest) ∧
      ((∃ d, Relation.TransGen g.InlineRefers d d) → g.inlineCycleFindings ≠ []) ∧
      (g.inlineCycleFindings = [] → ∀ root name span,
        g.lower (g.analyze root).1 ≠ .error (.inlineCycle name span)) := by
  have hempty : g.inlineCycleFindings = [] → g.inlineCycles = [] := List.map_eq_nil_iff.mp
  refine ⟨?_, ?_, ?_⟩
  · intro f hf
    obtain ⟨c, hc, rfl⟩ := List.mem_map.mp hf
    exact (InlineCycle.genuine_of_mem hc).finding
  · rintro ⟨d, hcycle⟩ hnone
    exact InlineCycle.acyclic_of_inlineCycles_eq_nil (hempty hnone) d hcycle
  · exact fun hnone => lower_ne_inlineCycle (hempty hnone)

/-- A rule that leads to two inline definitions, the second of which has the given body. -/
def inlinePair (body : Element) : Grammar where
  definitions :=
    [⟨0, .rule, "S", ⟨0, 1⟩, .reference ⟨4, 5⟩ "A", [], ⟨0, 5⟩⟩,
      ⟨1, .rule, "A", ⟨6, 7⟩, .marked ⟨6, 7⟩ .inline (.reference ⟨8, 9⟩ "B"), [], ⟨6, 9⟩⟩,
      ⟨2, .rule, "B", ⟨10, 11⟩, .marked ⟨10, 11⟩ .inline body, [], ⟨10, 13⟩⟩]
  options := []
  numbered := rfl
  distinct := show (["S", "A", "B"].map Text.LetterCase.lowerText).Nodup by decide

/-- A pair of definitions that refer to each other is reported, and one that ends in a text expands
under every root. -/
theorem inlinePair_findings :
    (∃ f ∈ (inlinePair (.reference ⟨12, 13⟩ "A")).inlineCycleFindings, ∃ first rest,
      f.IsAboutCycle (inlinePair (.reference ⟨12, 13⟩ "A")) first rest) ∧
      ∀ root name span, (inlinePair (.text ⟨12, 13⟩ "a")).lower
        ((inlinePair (.text ⟨12, 13⟩ "a")).analyze root).1 ≠ .error (.inlineCycle name span) := by
  constructor
  · obtain ⟨hsound, hcomplete, _⟩ :=
      inlineCycleFindings_exact (inlinePair (.reference ⟨12, 13⟩ "A"))
    let definitions := (inlinePair (.reference ⟨12, 13⟩ "A")).definitions
    have hthere : (inlinePair (.reference ⟨12, 13⟩ "A")).InlineRefers definitions[1]
        definitions[2] :=
      ⟨rfl, rfl, ⟨8, 9⟩, ⟨"B", ⟨8, 9⟩⟩, List.mem_cons_self, rfl, rfl⟩
    have hback : (inlinePair (.reference ⟨12, 13⟩ "A")).InlineRefers definitions[2]
        definitions[1] :=
      ⟨rfl, rfl, ⟨12, 13⟩, ⟨"A", ⟨12, 13⟩⟩, List.mem_cons_self, rfl, rfl⟩
    have hreported := hcomplete ⟨_, .tail (.single hthere) hback⟩
    obtain ⟨f, hf⟩ := List.exists_mem_of_ne_nil _ hreported
    exact ⟨f, hf, hsound f hf⟩
  · obtain ⟨_, _, hexpands⟩ := inlineCycleFindings_exact (inlinePair (.text ⟨12, 13⟩ "a"))
    exact hexpands (by decide)

end Grammar

end Peg
