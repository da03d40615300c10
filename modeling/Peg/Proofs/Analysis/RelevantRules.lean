import Peg.Proofs.Analysis.FinishingOrder
import Peg.Proofs.Analysis.RelevanceCoverage
import Peg.Proofs.Code.LoweringExact
import Peg.Proofs.Grammar.Rearranged

/-!
# Which rules are relevant

The walk finds relevant rules only. What it may miss is a rule of fixed text that is forced only in
bodies where an inline definition is forced that leads back to itself. If a grammar has a program
then every relevant rule is called in it.
-/

namespace Peg

open Relation

namespace Grammar

variable {g : Grammar} {root d e t : Definition} {forced : Bool}

/-- The expanded body of `d` has a forced reference to an inline definition that leads back to
itself. -/
def ForcesCycle (g : Grammar) (d : Definition) : Prop :=
  ∃ a, a.isInline = true ∧ g.Meets d a true ∧ TransGen g.LiveLeads a a

end Grammar

namespace Relevance

open Grammar

variable {g : Grammar} {root d e t : Definition} {forced : Bool} {r : LiveReference} {p : Progress}

namespace Progress

/-- A walk is complete when the references in all bodies that have been entered are covered. -/
def IsComplete (g : Grammar) (p : Progress) : Prop :=
  ∀ {d forced}, Entered g p d forced → ∀ r ∈ d.body.liveReferences forced, Covers g p d r

/-- A complete walk has begun to expand every inline definition that an entered body meets. If it
does so unforced where the definition is forced then a cycle is forced. -/
theorem IsComplete.begun_of_meets (h : IsComplete g p) (hd : Entered g p d false)
    (hmeets : g.Meets d t forced) (ht : t.isInline = true) :
    ∃ f, (t, f) ∈ p.begun ∧ (forced = true → f = true ∨ g.ForcesCycle d) := by
  induction hmeets with
  | @here t forced hrefers =>
    obtain ⟨r, hr, hfind, rfl⟩ := liveRefers_iff.mp hrefers
    obtain ⟨f, hbegun, hflag⟩ := (h hd r hr).begun hfind ht
    refine ⟨f, hbegun, fun hyes => (hflag hyes).imp_right fun hback => ?_⟩
    exact ⟨t, ht, hyes ▸ .here hrefers, .tail' hback ⟨_, hrefers⟩⟩
  | @inside a t outer inner hmeets ha hrefers ih =>
    obtain ⟨f, hbegun, hsame⟩ := ih ha
    obtain ⟨r, hr, hfind, hforced⟩ := hrefers.exists_mem f
    obtain ⟨f', hbegun', hflag⟩ := (h (Or.inr hbegun) r hr).begun hfind ht
    refine ⟨f', hbegun', fun hyes => ?_⟩
    have hstart : r.forced = true ∨ g.ForcesCycle d := by
      rw [hforced, Bool.or_eq_true]
      rcases Bool.or_eq_true_iff.mp hyes with houter | hinner
      · exact (hsame houter).imp_left Or.inl
      · exact Or.inl (Or.inr hinner)
    rcases hstart with hr | hcycle
    · refine (hflag hr).imp_right fun hback => ?_
      exact ⟨t, ht, hyes ▸ .inside hmeets ha hrefers, .tail' hback ⟨_, hrefers⟩⟩
    · exact Or.inr hcycle

/-- A complete walk covers a reference through which an entered body meets a definition. -/
theorem IsComplete.exists_covers (h : IsComplete g p) (hd : Entered g p d false)
    (hmeets : g.Meets d t forced) :
    ∃ s r, g.find? r.name = some t ∧ Covers g p s r ∧
      (forced = true → r.forced = true ∨ g.ForcesCycle d) := by
  cases hmeets with
  | here hrefers =>
    obtain ⟨r, hr, hfind, rfl⟩ := liveRefers_iff.mp hrefers
    exact ⟨d, r, hfind, h hd r hr, Or.inl⟩
  | @inside a _ outer inner hmeets ha hrefers =>
    obtain ⟨f, hbegun, hsame⟩ := h.begun_of_meets hd hmeets ha
    obtain ⟨r, hr, hfind, hforced⟩ := hrefers.exists_mem f
    refine ⟨a, r, hfind, h (Or.inr hbegun) r hr, fun hyes => ?_⟩
    rw [hforced, Bool.or_eq_true]
    rcases Bool.or_eq_true_iff.mp hyes with houter | hinner
    · exact (hsame houter).imp_left Or.inl
    · exact Or.inl (Or.inr hinner)

/-- A complete walk has been through the bodies of all definitions that show. -/
theorem IsComplete.entered_of_shown (h : IsComplete g p) (hroot : Entered g p root false)
    (hd : g.Shown root d) : Entered g p d false := by
  induction hd with
  | root => exact hroot
  | met _ hmeets hrule ih =>
    obtain ⟨s, r, hfind, hcovers, _⟩ := h.exists_covers ih hmeets
    exact Or.inl ⟨hmeets.mem, hcovers.walked hfind hrule, rfl⟩

end Progress

/-- Following the references of the root is a complete walk. -/
theorem exists_complete (hroot : root ∈ g.definitions) :
    ∃ p : Progress, p.walk.relevant = g.relevantRules root ∧ p.IsComplete g ∧
      p.Entered g root false ∧ (root.isDropped = false → root.id ∈ p.walk.relevant) := by
  let start : Progress := ⟨⟨if root.isDropped then [] else [root.id], [root.id]⟩, ∅⟩
  have hstart : start.Underway g (2 * g.size + 1) [] root :=
    ⟨by simp [start], by simpa [start] using id_lt_size hroot, by simp, by
      simp only [start, List.length_nil, List.length_singleton]
      omega⟩
  have hcover : CoversReferences g (2 * g.size + 1) := coversReferences g _
  obtain ⟨p, hwalk, hadvance, hall⟩ :=
    hcover.all (List.Subset.refl (root.body.liveReferences false)) hstart
  refine ⟨p, congrArg Walk.relevant hwalk, ?_, ?_, fun hkept => ?_⟩
  · intro d forced hentered r hr
    by_cases hbefore : start.Entered g d forced
    · rcases hbefore with ⟨hd, hwalked, rfl⟩ | hbegun
      · obtain rfl := eq_of_id_eq hd hroot (List.mem_singleton.mp hwalked)
        exact hall r hr
      · exact absurd hbegun (Set.notMem_empty _)
    · exact hadvance.covers hentered hbefore r hr
  · exact Or.inl ⟨hroot, hadvance.walked List.mem_cons_self, rfl⟩
  · exact hadvance.relevant (by simp [start, hkept])

/-- The walk from the root keeps relevant rules only. -/
theorem isSound_relevantRules (hroot : root ∈ g.definitions) :
    (g.relevantRules root).Nodup ∧
      ∀ id ∈ g.relevantRules root, ∃ d ∈ g.definitions, d.id = id ∧ g.IsRelevant root d := by
  let start : Walk := ⟨if root.isDropped then [] else [root.id], [root.id]⟩
  have hstart : start.IsSound g root := by
    cases hdropped : root.isDropped with
    | true => exact ⟨by simp [start, hdropped], by simp [start, hdropped]⟩
    | false =>
      refine ⟨by simp [start, hdropped], fun id hid => ⟨root, hroot, ?_, .root hdropped⟩⟩
      simpa [start, hdropped, eq_comm] using hid
  have hend : Walk.IsSound g root ((root.body.liveReferences false).foldl
      (fun w r => follow g (2 * g.size + 1) [] r w) start) :=
    List.foldlRecOn _ _ hstart fun _ hw _ hr => follow_sound hw (appears_of_shown .root hr)
  exact ⟨hend.nodup, hend.relevant⟩

end Relevance

namespace Grammar

variable {g : Grammar} {root d e t : Definition} {callable : List Nat} {forced : Bool}

/-- A live reference is a reference. -/
theorem LiveRefers.exists_reference (h : g.LiveRefers d t forced) :
    ∃ r ∈ d.body.references, g.find? r.name = some t := by
  obtain ⟨name, hlive, hfind⟩ := h
  obtain ⟨r, hr, hname⟩ := hlive.exists_reference
  exact ⟨r, hr, hname ▸ hfind⟩

/-- Where everything can be expanded, what a body in the parser refers to goes into the parser. -/
theorem Expandable.used_of_refers (h : g.Expandable (g.callableRules root.id))
    (hroot : root ∈ g.definitions) (hd : g.Used (g.callableRules root.id) d)
    (hrefers : g.LiveRefers d t forced) : g.Used (g.callableRules root.id) t := by
  obtain ⟨r, hr, hfind⟩ := hrefers.exists_reference
  obtain ⟨t', hfind', hkind⟩ := (h.lowerable d hd).rules r hr
  cases hfind.symm.trans hfind'
  by_cases hcall : t.id ∈ g.callableRules root.id
  · exact .called hrefers.mem hcall
  · exact .spliced hd (hd.splices (id_lt_size hroot) hr hfind hkind hcall)

/-- What a definition in use meets is in use as well. -/
theorem Expandable.used_of_meets (h : g.Expandable (g.callableRules root.id))
    (hroot : root ∈ g.definitions) (hd : g.Used (g.callableRules root.id) d)
    (hmeets : g.Meets d t forced) : g.Used (g.callableRules root.id) t := by
  induction hmeets with
  | here hrefers => exact h.used_of_refers hroot hd hrefers
  | inside _ _ hrefers ih => exact h.used_of_refers hroot ih hrefers

/-- Whatever is used and not inline is called. -/
theorem Used.mem_callable (h : g.Used callable d) (hrule : d.isInline = false) :
    d.id ∈ callable := by
  cases h with
  | called _ hcall => exact hcall
  | spliced _ hsplices => exact absurd hsplices.1 (by simp [hrule])

/-- A definition that is shown is callable, if every inline definition can be expanded. -/
theorem Expandable.callable_of_shown (h : g.Expandable (g.callableRules root.id))
    (hroot : root ∈ g.definitions) (hd : g.Shown root d) : d.id ∈ g.callableRules root.id := by
  induction hd with
  | root => exact root_mem_callableRules (id_lt_size hroot)
  | met hshown hmeets hrule ih =>
    exact (h.used_of_meets hroot (.called (hshown.mem hroot) ih) hmeets).mem_callable hrule

/-- A relevant definition is shown. -/
theorem IsRelevant.shown (h : g.IsRelevant root d) : g.Shown root d := by
  cases h with
  | root => exact .root
  | met hshown hmeets hrule => exact .met hshown hmeets hrule

/-- What can be lowered can be expanded. -/
theorem expandable_of_lower {name : String} {program : Program} (hroot : g.rule? name = some root)
    (h : g.lower (g.analyze (some name)).1 = .ok program) :
    g.Expandable (g.callableRules root.id) := by
  obtain ⟨hrules, _⟩ := mapM_lowerRule_of_lower hroot h
  have hcallable := (analyze_of_rule? hroot).2
  have hexpandable := (exists_mapM_lowerRule_iff (id_lt_size (mem_of_rule? hroot)) hcallable).mp
    ⟨program.rules, hcallable ▸ hrules⟩
  exact hcallable ▸ hexpandable

/-- If live references lead to larger numbers only then no definition leads back to itself. -/
theorem not_transGen_liveLeads (h : ∀ d ∈ g.definitions, ∀ r ∈ d.body.liveReferences false,
      (g.find? r.name).all (fun t => decide (d.id < t.id)) = true) :
    ¬ TransGen g.LiveLeads d d := by
  have hstep : ∀ {d t}, d ∈ g.definitions → g.LiveLeads d t → t ∈ g.definitions ∧ d.id < t.id := by
    rintro d t hd ⟨inner, hrefers⟩
    obtain ⟨r, hr, hfind, _⟩ := liveRefers_iff.mp hrefers
    have hlarger := h d hd r hr
    rw [hfind] at hlarger
    exact ⟨hrefers.mem, by simpa using hlarger⟩
  intro hcycle
  have hd : d ∈ g.definitions :=
    mem_of_cycle (fun ⟨_, hrefers⟩ => LiveRefers.mem hrefers) hcycle
  have hlarger : ∀ t, TransGen g.LiveLeads d t → t ∈ g.definitions ∧ d.id < t.id := by
    intro t hpath
    induction hpath with
    | single hleads => exact hstep hd hleads
    | tail _ hleads ih =>
      obtain ⟨ht, hlt⟩ := hstep ih.1 hleads
      exact ⟨ht, ih.2.trans hlt⟩
  exact Nat.lt_irrefl _ (hlarger d hcycle).2

/-- A relevant rule that the walk misses is of fixed text, and it is forced only together with an
inline definition that leads back to itself. -/
theorem IsRelevant.missed (hroot : root ∈ g.definitions) (h : g.IsRelevant root d)
    (hnot : d.id ∉ g.relevantRules root) :
    d ≠ root ∧ g.matchesVariableText d.body = false ∧
      ∀ e, g.Shown root e → g.Meets e d true → g.ForcesCycle e := by
  obtain ⟨p, hp, hcomplete, hentered, hself⟩ := Relevance.exists_complete hroot
  rw [← hp] at hnot
  cases h with
  | root hkept => exact absurd (hself hkept) hnot
  | @met e _ _ he hmeets hrule hkept _ =>
    have hcover : ∀ {e forced}, g.Shown root e → g.Meets e d forced →
        ∃ s r, g.find? r.name = some d ∧ p.Covers g s r ∧
          (forced = true → r.forced = true ∨ g.ForcesCycle e) := fun he hmeets =>
      hcomplete.exists_covers (hcomplete.entered_of_shown hentered he) hmeets
    refine ⟨?_, ?_, fun e he hmeets => ?_⟩
    · rintro rfl
      exact hnot (hself hkept)
    · obtain ⟨s, r, hfind, hcovers, _⟩ := hcover he hmeets
      by_contra hvaries
      exact hnot (hcovers.kept hfind hrule hkept (Or.inr (by simpa using hvaries)))
    · obtain ⟨s, r, hfind, hcovers, hforced⟩ := hcover he hmeets
      refine (hforced rfl).resolve_left fun hyes => ?_
      exact hnot (hcovers.kept hfind hrule hkept (Or.inl hyes))

/-- Nothing is missed if no inline definition leads back to itself. -/
theorem IsRelevant.mem_relevantRules (hroot : root ∈ g.definitions) (h : g.IsRelevant root d)
    (hacyclic : ∀ a, a.isInline = true → ¬ TransGen g.LiveLeads a a) :
    d.id ∈ g.relevantRules root := by
  by_contra hnot
  obtain ⟨hne, hfixed, hcycles⟩ := h.missed hroot hnot
  cases h with
  | root => exact hne rfl
  | @met e _ forced he hmeets _ _ hreason =>
    obtain rfl : forced = true := hreason.resolve_right (by simp [hfixed])
    obtain ⟨a, ha, _, hcycle⟩ := hcycles e he hmeets
    exact hacyclic a ha hcycle

/-- The walk finds different rules, all of them relevant. A relevant rule that it misses is of fixed
text, and every body that shows and meets the rule forced also meets an inline definition forced
that leads back to itself. So nothing is missed if no inline definition leads back to itself. If the
grammar has a program then all relevant rules are called in it. -/
theorem relevantRules_exact (hroot : root ∈ g.definitions) :
    (g.relevantRules root).Nodup ∧
      (∀ id ∈ g.relevantRules root, ∃ d ∈ g.definitions, d.id = id ∧ g.IsRelevant root d) ∧
      (∀ d, g.IsRelevant root d → d.id ∉ g.relevantRules root →
        d ≠ root ∧ g.matchesVariableText d.body = false ∧
          ∀ e, g.Shown root e → g.Meets e d true → g.ForcesCycle e) ∧
      ((∀ a, a.isInline = true → ¬ TransGen g.LiveLeads a a) →
        ∀ d ∈ g.definitions, d.id ∈ g.relevantRules root ↔ g.IsRelevant root d) ∧
      ∀ name program, g.rule? name = some root →
        g.lower (g.analyze (some name)).1 = .ok program →
        (g.analyze (some name)).1.relevant = g.relevantRules root ∧
          ∀ d, g.IsRelevant root d → d.id ∈ (g.analyze (some name)).1.callable := by
  obtain ⟨hnodup, hsound⟩ := Relevance.isSound_relevantRules hroot
  refine ⟨hnodup, hsound, fun d h => h.missed hroot, fun hacyclic d hd => ⟨fun hid => ?_, ?_⟩, ?_⟩
  · obtain ⟨t, ht, hsame, hrelevant⟩ := hsound d.id hid
    exact eq_of_id_eq ht hd hsame ▸ hrelevant
  · exact fun hrelevant => hrelevant.mem_relevantRules hroot hacyclic
  · intro name program hname hlower
    have hbind : (some name).bind g.rule? = some root := hname
    refine ⟨by simp only [analyze, hbind], fun d hrelevant => ?_⟩
    rw [(analyze_of_rule? hname).2]
    exact (expandable_of_lower hname hlower).callable_of_shown hroot hrelevant.shown

/-- The definitions `S = A A?;`, `@inline A = W;` and `W = "w";`. -/
def twiceExpanded : Grammar where
  definitions :=
    [⟨0, .rule, "S", ⟨0, 1⟩,
        .sequence ⟨4, 8⟩ (.reference ⟨4, 5⟩ "A") (.optional ⟨6, 8⟩ (.reference ⟨6, 7⟩ "A")), [],
        ⟨0, 9⟩⟩,
      ⟨1, .rule, "A", ⟨18, 19⟩, .marked ⟨10, 23⟩ .inline (.reference ⟨22, 23⟩ "W"), [],
        ⟨10, 24⟩⟩,
      ⟨2, .rule, "W", ⟨25, 26⟩, .text ⟨29, 32⟩ "w", [], ⟨25, 33⟩⟩]
  options := []
  numbered := rfl
  distinct := show (["S", "A", "W"].map Text.LetterCase.lowerText).Nodup by decide

/-- The text of `W` is fixed and its body has been walked when it is forced. It is relevant and
called. -/
theorem twiceExpanded_relevantRules :
    twiceExpanded.definitions[0] ∈ twiceExpanded.definitions ∧
      twiceExpanded.relevantRules twiceExpanded.definitions[0] = [0, 2] ∧
      (∀ a, a.isInline = true → ¬ TransGen twiceExpanded.LiveLeads a a) ∧
      twiceExpanded.IsRelevant twiceExpanded.definitions[0] twiceExpanded.definitions[2] ∧
      twiceExpanded.matchesVariableText twiceExpanded.definitions[2].body = false ∧
      ∃ program, twiceExpanded.lower (twiceExpanded.analyze (some "S")).1 = .ok program ∧
        2 ∈ (twiceExpanded.analyze (some "S")).1.callable := by
  have hroot : twiceExpanded.definitions[0] ∈ twiceExpanded.definitions := List.mem_cons_self
  have hacyclic : ∀ a, a.isInline = true → ¬ TransGen twiceExpanded.LiveLeads a a :=
    fun _ _ => not_transGen_liveLeads (by decide)
  obtain ⟨_, _, _, hexact, hcalled⟩ := relevantRules_exact hroot
  have hrelevant := (hexact hacyclic twiceExpanded.definitions[2] (by decide)).mp (by decide)
  have hprogram : twiceExpanded.lower (twiceExpanded.analyze (some "S")).1 =
      .ok ⟨[⟨"S", .sequence (.call ⟨1⟩) (.optional (.call ⟨1⟩)), true⟩, ⟨"W", .literal "w", true⟩],
        ⟨0⟩, by decide⟩ := rfl
  exact ⟨hroot, by decide, hacyclic, hrelevant, by decide, _, hprogram,
    (hcalled "S" _ rfl hprogram).2 _ hrelevant⟩

/-- The definitions `B = "x" A?;`, `@inline A = B C;`, `C = "c";` and `R = A;`. -/
def expandedInLoop : Grammar where
  definitions :=
    [⟨0, .rule, "B", ⟨0, 1⟩,
        .sequence ⟨4, 10⟩ (.text ⟨4, 7⟩ "x") (.optional ⟨8, 10⟩ (.reference ⟨8, 9⟩ "A")), [],
        ⟨0, 11⟩⟩,
      ⟨1, .rule, "A", ⟨20, 21⟩,
        .marked ⟨12, 27⟩ .inline
          (.sequence ⟨24, 27⟩ (.reference ⟨24, 25⟩ "B") (.reference ⟨26, 27⟩ "C")), [],
        ⟨12, 28⟩⟩,
      ⟨2, .rule, "C", ⟨29, 30⟩, .text ⟨33, 36⟩ "c", [], ⟨29, 37⟩⟩,
      ⟨3, .rule, "R", ⟨38, 39⟩, .reference ⟨42, 43⟩ "A", [], ⟨38, 44⟩⟩]
  options := []
  numbered := rfl
  distinct := show (["B", "A", "C", "R"].map Text.LetterCase.lowerText).Nodup by decide

/-- The inline definitions form no cycle, and `C` is forced in the body of `B`, which shows. Still
`C` is missed, because `A` is being expanded when the walk meets it in `B`. -/
theorem expandedInLoop_misses_rule :
    expandedInLoop.inlineCycleFindings = [] ∧
      (∀ d, ¬ TransGen expandedInLoop.InlineRefers d d) ∧
      expandedInLoop.IsRelevant expandedInLoop.definitions[3] expandedInLoop.definitions[2] ∧
      expandedInLoop.definitions[2].id ∉
        expandedInLoop.relevantRules expandedInLoop.definitions[3] := by
  have hnone : expandedInLoop.inlineCycles = [] := by decide
  have hinline : expandedInLoop.definitions[1].isInline = true := by decide
  have hstart : expandedInLoop.LiveRefers expandedInLoop.definitions[3]
      expandedInLoop.definitions[1] false :=
    liveRefers_iff.mpr ⟨⟨"A", false⟩, by decide, rfl, rfl⟩
  have hthere : expandedInLoop.LiveRefers expandedInLoop.definitions[1]
      expandedInLoop.definitions[0] false :=
    liveRefers_iff.mpr ⟨⟨"B", false⟩, by decide, rfl, rfl⟩
  have hback : expandedInLoop.LiveRefers expandedInLoop.definitions[0]
      expandedInLoop.definitions[1] true :=
    liveRefers_iff.mpr ⟨⟨"A", true⟩, by decide, rfl, rfl⟩
  have hend : expandedInLoop.LiveRefers expandedInLoop.definitions[1]
      expandedInLoop.definitions[2] false :=
    liveRefers_iff.mpr ⟨⟨"C", false⟩, by decide, rfl, rfl⟩
  have hshown : expandedInLoop.Shown expandedInLoop.definitions[3]
      expandedInLoop.definitions[0] :=
    .met .root (.inside (.here hstart) hinline hthere) (by decide)
  refine ⟨by simp [inlineCycleFindings, hnone], InlineCycle.acyclic_of_inlineCycles_eq_nil hnone,
    ?_, by decide⟩
  exact .met hshown (.inside (.here hback) hinline hend) (by decide) (by decide) (Or.inl rfl)

end Grammar

end Peg
