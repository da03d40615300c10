import Peg.Proofs.Analysis.Reachability
import Peg.Proofs.Code.Lowered

/-!
# Which rules are called and which are unused

The rules that the parser calls are the root and whatever callable definitions a chain of references
to rules leads to from there. The rules that are reported as unused are those on which neither the
root nor any highlight definition depends, so no rule is both.
-/

namespace Peg.Grammar

open Relation

variable {g : Grammar} {root d : Definition}

/-- Just the rules to which a chain of references to rules leads are looked at for the parser. -/
theorem mem_reachable_ruleTargets_iff (hroot : root ∈ g.definitions) (hd : d ∈ g.definitions) :
    d.id ∈ g.reachable g.ruleTargets [root.id] ↔ ReflTransGen g.RefersToRule root d := by
  have hstart : [root] ⊆ g.definitions := by simpa using hroot
  have hiff := g.enumerates_ruleTargets.mem_reachable_iff hstart (List.nodup_singleton root) hd
  simpa using hiff

/-- Only the root is called although it is inline. -/
theorem mem_callableRules_iff (hroot : root ∈ g.definitions) (hd : d ∈ g.definitions) :
    d.id ∈ g.callableRules root.id ↔
      ReflTransGen g.RefersToRule root d ∧ (d = root ∨ d.isInline = false) := by
  have hinline : g.isInlineId d.id = d.isInline := by simp [isInlineId, get?_id hd]
  have hself : d.id = root.id ↔ d = root :=
    ⟨eq_of_id_eq hd hroot, congrArg Definition.id⟩
  simp only [callableRules, List.mem_filter, mem_reachable_ruleTargets_iff hroot hd, hinline,
    Bool.or_eq_true, beq_iff_eq, Bool.not_eq_true', hself]

/-- What a chain of references to rules leads to is the start of the chain or a rule. -/
theorem kind_of_refersToRule (h : ReflTransGen g.RefersToRule root d) (hne : d ≠ root) :
    d.kind = .rule := by
  rcases h.cases_tail with rfl | ⟨_, _, hlast⟩
  · exact absurd rfl hne
  · exact hlast.2

/-- The rules that a parser calls are the root, which comes first, and the definitions that are
rules, are not inline and stand at the end of a chain of references to rules that starts at the
root. If the root is a rule then neither they nor any definitions along such chains are among the
unused ones. -/
theorem callableRules_exact (hroot : root ∈ g.definitions) :
    (g.callableRules root.id).head? = some root.id ∧ (g.callableRules root.id).Nodup ∧
      (∀ id ∈ g.callableRules root.id, ∃ d ∈ g.definitions, d.id = id) ∧
      (∀ d ∈ g.definitions, d ≠ root →
        (d.id ∈ g.callableRules root.id ↔
          d.kind = .rule ∧ d.isInline = false ∧ ReflTransGen g.RefersToRule root d)) ∧
      ∀ name, g.rule? name = some root →
        (g.analyze (some name)).1.callable = g.callableRules root.id ∧
          ∀ d ∈ g.definitions,
            d.id ∈ g.callableRules root.id ∨ ReflTransGen g.RefersToRule root d →
            d.id ∉ (g.analyze (some name)).1.unused := by
  have hlt := id_lt_size hroot
  obtain ⟨rest, hrest⟩ := exists_callableRules_eq_cons g root.id
  refine ⟨by rw [hrest, List.head?_cons], nodup_callableRules hlt, ?_, ?_, ?_⟩
  · intro id hid
    obtain ⟨d, hget⟩ : ∃ d, g.get? id = some d :=
      ⟨_, List.getElem?_eq_getElem (lt_size_of_mem_callableRules hlt hid)⟩
    exact ⟨d, mem_of_get? hget, id_of_get? hget⟩
  · intro d hd hne
    rw [mem_callableRules_iff hroot hd]
    constructor
    · rintro ⟨hchain, hself | hcalled⟩
      · exact absurd hself hne
      · exact ⟨kind_of_refersToRule hchain hne, hcalled, hchain⟩
    · rintro ⟨_, hcalled, hchain⟩
      exact ⟨hchain, Or.inr hcalled⟩
  · intro name hname
    obtain ⟨hunused, _⟩ := unused_of_rule? hname
    refine ⟨(analyze_of_rule? hname).2, fun d hd hreached hmem => ?_⟩
    have hchain : ReflTransGen g.RefersToRule root d :=
      hreached.elim (fun hcalled => ((mem_callableRules_iff hroot hd).mp hcalled).1) id
    rw [hunused] at hmem
    obtain ⟨t, ht, hid⟩ := List.mem_map.mp hmem
    obtain ⟨htmem, _, hnot⟩ :=
      (mem_unusedRules_iff hroot (rule?_eq_some_iff.mp hname).2).mp ht
    obtain rfl := eq_of_id_eq htmem hd hid
    exact hnot (inUse_of_refersToRule hroot hchain)

/-- The definitions `S = A "x";`, `@inline A = B;`, `B = "b" B;`, `C = C;`, `tm T = D;` and
`D = "d";`. -/
def loneLoop : Grammar where
  definitions :=
    [⟨0, .rule, "S", ⟨0, 1⟩, .sequence ⟨4, 9⟩ (.reference ⟨4, 5⟩ "A") (.text ⟨6, 9⟩ "x"), [],
        ⟨0, 10⟩⟩,
      ⟨1, .rule, "A", ⟨19, 20⟩, .marked ⟨11, 24⟩ .inline (.reference ⟨23, 24⟩ "B"), [],
        ⟨11, 25⟩⟩,
      ⟨2, .rule, "B", ⟨26, 27⟩,
        .sequence ⟨30, 35⟩ (.text ⟨30, 33⟩ "b") (.reference ⟨34, 35⟩ "B"), [], ⟨26, 36⟩⟩,
      ⟨3, .rule, "C", ⟨37, 38⟩, .reference ⟨41, 42⟩ "C", [], ⟨37, 43⟩⟩,
      ⟨4, .highlight, "T", ⟨47, 48⟩, .reference ⟨51, 52⟩ "D", [], ⟨44, 53⟩⟩,
      ⟨5, .rule, "D", ⟨54, 55⟩, .text ⟨58, 61⟩ "d", [], ⟨54, 62⟩⟩]
  options := []
  numbered := rfl
  distinct := show (["S", "A", "B", "C", "T", "D"].map Text.LetterCase.lowerText).Nodup by decide

/-- The parser calls `S` and `B`, and it looks through `A`, which is not unused either. -/
theorem loneLoop_callableRules :
    loneLoop.definitions[0] ∈ loneLoop.definitions ∧ loneLoop.callableRules 0 = [0, 2] ∧
      loneLoop.definitions[2] ≠ loneLoop.definitions[0] ∧
      ReflTransGen loneLoop.RefersToRule loneLoop.definitions[0] loneLoop.definitions[2] ∧
      loneLoop.rule? "S" = some loneLoop.definitions[0] ∧
      ReflTransGen loneLoop.RefersToRule loneLoop.definitions[0] loneLoop.definitions[1] ∧
      1 ∉ (loneLoop.analyze (some "S")).1.unused := by
  have hroot : loneLoop.definitions[0] ∈ loneLoop.definitions := List.mem_cons_self
  have hname : loneLoop.rule? "S" = some loneLoop.definitions[0] := rfl
  have hne : loneLoop.definitions[2] ≠ loneLoop.definitions[0] := by decide
  have hinline : ReflTransGen loneLoop.RefersToRule loneLoop.definitions[0]
      loneLoop.definitions[1] :=
    .single ⟨⟨⟨4, 5⟩, ⟨"A", ⟨4, 5⟩⟩, List.mem_cons_self, rfl, rfl⟩, rfl⟩
  obtain ⟨_, _, _, hcalled, hanalysis⟩ := callableRules_exact hroot
  obtain ⟨_, _, hchain⟩ := (hcalled loneLoop.definitions[2] (by decide) hne).mp (by decide)
  have hused := (hanalysis "S" hname).2 loneLoop.definitions[1] (by decide) (Or.inr hinline)
  exact ⟨hroot, by decide, hne, hchain, hname, hinline, hused⟩

/-- The unused rules are, in the order of the definitions and once each, the rules to which no chain
of dependencies leads from the root or from a highlight definition. There is one warning about each
of them, at its name. So rules on which nothing but themselves depends are unused, whether they
depend on each other or not. -/
theorem unusedRules_exact {name : String} (hroot : g.rule? name = some root) :
    (∀ d, d ∈ g.unusedRules root.id ↔
        d ∈ g.definitions ∧ d.kind = .rule ∧ ¬ g.InUse root d) ∧
      (g.unusedRules root.id).Sublist g.definitions ∧ (g.unusedRules root.id).Nodup ∧
      (g.analyze (some name)).1.unused = (g.unusedRules root.id).map Definition.id ∧
      List.Forall₂ Finding.IsAboutUnused
        ((g.analyze (some name)).2.filter fun f => f.kind = .unusedDefinition)
        (g.unusedRules root.id) ∧
      ∀ apart : Definition → Prop, (∀ d ∈ g.definitions, apart d → d.kind = .rule ∧ d ≠ root) →
        (∀ d ∈ g.definitions, ∀ t, g.DependsOn d t → apart t → apart d) →
        ∀ d ∈ g.definitions, apart d → d ∈ g.unusedRules root.id := by
  obtain ⟨hfind, hkind⟩ := rule?_eq_some_iff.mp hroot
  have hmem : ∀ d, d ∈ g.unusedRules root.id ↔
      d ∈ g.definitions ∧ d.kind = .rule ∧ ¬ g.InUse root d :=
    fun d => mem_unusedRules_iff (mem_of_find? hfind) hkind
  have hsub : (g.unusedRules root.id).Sublist g.definitions :=
    List.filter_sublist.trans List.filter_sublist
  refine ⟨hmem, hsub, g.nodup_definitions.sublist hsub, (unused_of_rule? hroot).1,
    unusedFindings_of_rule? hroot, fun apart hrules hclosed d hd hapart => ?_⟩
  refine (hmem d).mpr ⟨hd, (hrules d hd hapart).1, ?_⟩
  rintro ⟨first, hstart, hfirst, hchain⟩
  -- Back along the chain, what is apart is entered only from what is apart.
  have hback : ∀ e, ReflTransGen g.DependsOn e d → e ∈ g.definitions → apart e := by
    intro e hchain
    induction hchain using ReflTransGen.head_induction_on with
    | refl => exact fun _ => hapart
    | @head e t hstep _ ih => exact fun he => hclosed e he t hstep (ih hstep.mem)
  obtain ⟨hrule, hne⟩ := hrules first hstart (hback first hchain hstart)
  rcases hfirst with rfl | hhighlight
  · exact hne rfl
  · rw [hrule] at hhighlight
    cases hhighlight

/-- Only `C`, to which nothing but itself refers, is unused, and there is one warning about it. The
rule `D` is used by a highlight definition. -/
theorem loneLoop_unusedRules :
    loneLoop.rule? "S" = some loneLoop.definitions[0] ∧
      loneLoop.unusedRules 0 = [loneLoop.definitions[3]] ∧
      ¬ loneLoop.InUse loneLoop.definitions[0] loneLoop.definitions[3] ∧
      loneLoop.InUse loneLoop.definitions[0] loneLoop.definitions[5] ∧
      ∃ f, (loneLoop.analyze (some "S")).2.filter (fun f => f.kind = .unusedDefinition) = [f] ∧
        f.IsAboutUnused loneLoop.definitions[3] := by
  have hname : loneLoop.rule? "S" = some loneLoop.definitions[0] := rfl
  have hunused : loneLoop.unusedRules 0 = [loneLoop.definitions[3]] := by decide
  obtain ⟨hmem, _, _, _, hfindings, _⟩ := unusedRules_exact hname
  have hloop := (hmem loneLoop.definitions[3]).mp (by decide)
  have hregion : loneLoop.InUse loneLoop.definitions[0] loneLoop.definitions[5] := by
    by_contra hnot
    have hmissing : loneLoop.definitions[5] ∈ loneLoop.unusedRules 0 :=
      (hmem loneLoop.definitions[5]).mpr ⟨by decide, rfl, hnot⟩
    revert hmissing
    decide
  have hone : List.Forall₂ Finding.IsAboutUnused _ [loneLoop.definitions[3]] := hunused ▸ hfindings
  obtain ⟨f, rest, hf, hrest, heq⟩ := List.forall₂_cons_right_iff.mp hone
  obtain rfl := List.forall₂_nil_right_iff.mp hrest
  exact ⟨hname, hunused, hloop.2.2, hregion, f, heq, hf⟩

end Peg.Grammar
