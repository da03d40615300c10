import Peg.Proofs.Analysis.CycleSearch

/-!
# The order in which the search finishes

As long as no cycle is found, the inline definitions to which a definition refers have been left for
good before the definition itself is. In the order of leaving, every reference between inline
definitions therefore points back, and such references form no cycle.
-/

namespace Peg

open Grammar InlineCycle

variable {g : Grammar} {path : List Step} {d t : Definition}

namespace Grammar

/-- Numbers of definitions, the latest first, such that inline definitions refer only to inline
definitions that come earlier. -/
inductive Finished (g : Grammar) : List Nat → Prop where
  | nil : g.Finished []
  | cons {id : Nat} {done : List Nat} : g.Finished done → id ∉ done →
      (∀ d ∈ g.definitions, d.id = id → ∀ t, g.InlineRefers d t → t.id ∈ done) →
      g.Finished (id :: done)

/-- References between inline definitions do not lead out of the ones that are finished. -/
theorem Finished.mem_of_refers {done : List Nat} (h : g.Finished done)
    (hd : d ∈ g.definitions) (hdone : d.id ∈ done) (hrefers : g.InlineRefers d t) :
    t.id ∈ done := by
  induction h with
  | nil => cases hdone
  | cons _ _ hcons ih =>
    rcases List.mem_cons.mp hdone with hid | hmem
    · exact List.mem_cons_of_mem _ (hcons d hd hid t hrefers)
    · exact List.mem_cons_of_mem _ (ih hmem)

/-- No finished definition lies on a cycle of references between inline definitions. -/
theorem Finished.acyclic {done : List Nat} (h : g.Finished done) (hd : d ∈ g.definitions)
    (hmem : d.id ∈ done) : ¬ Relation.TransGen g.InlineRefers d d := by
  induction h with
  | nil => cases hmem
  | @cons id done hdone hnew hcons ih =>
    rcases List.mem_cons.mp hmem with hid | hmem
    -- Whatever the latest definition leads to was finished before it, so that is not itself.
    · have hleads : ∀ t, Relation.TransGen g.InlineRefers d t →
          t ∈ g.definitions ∧ t.id ∈ done := by
        intro t hpath
        induction hpath with
        | single hrefers => exact ⟨hrefers.mem, hcons d hd hid _ hrefers⟩
        | tail _ hrefers ih => exact ⟨hrefers.mem, hdone.mem_of_refers ih.1 ih.2 hrefers⟩
      exact fun hcycle => hnew (hid ▸ (hleads d hcycle).2)
    · exact ih hmem

end Grammar

namespace InlineCycle

/-- What the search has entered is what is on its path and what is finished. -/
structure Search.Ordered (g : Grammar) (s : Search) (onPath done : List Nat) : Prop where
  entered_iff : ∀ id, id ∈ s.entered ↔ id ∈ onPath ∨ id ∈ done
  apart : ∀ id ∈ done, id ∉ onPath
  finished : g.Finished done

/-- When the search enters a definition, that is on its path and not finished. -/
theorem Search.Ordered.enter {s : Search} {onPath done : List Nat} (h : s.Ordered g onPath done)
    (hnew : d.id ∉ s.entered) :
    Search.Ordered g { s with entered := d.id :: s.entered } (d.id :: onPath) done where
  entered_iff id := by
    have hiff := h.entered_iff id
    simp only [List.mem_cons, or_assoc, hiff]
  apart id hid := by
    have hentered : id ∈ s.entered := (h.entered_iff id).mpr (Or.inr hid)
    intro hmem
    rcases List.mem_cons.mp hmem with rfl | hpath
    · exact hnew hentered
    · exact h.apart id hid hpath
  finished := h.finished

/-- A definition is finished when the inline definitions that it refers to are. -/
theorem Search.Ordered.leave {s : Search} {onPath done : List Nat}
    (h : s.Ordered g (d.id :: onPath) done) (hd : d ∈ g.definitions) (hnew : d.id ∉ onPath)
    (hrefers : ∀ r ∈ d.body.references, ∀ t, g.find? r.name = some t → t.isInline = true →
      t.id ∈ done) : s.Ordered g onPath (d.id :: done) where
  entered_iff id := by
    have hiff := h.entered_iff id
    simp only [List.mem_cons] at hiff ⊢
    rw [hiff, or_assoc, or_left_comm]
  apart id hid := by
    rcases List.mem_cons.mp hid with rfl | hdone
    · exact hnew
    · exact fun hpath => h.apart id hdone (List.mem_cons_of_mem _ hpath)
  finished := by
    refine h.finished.cons (fun hdone => h.apart d.id hdone List.mem_cons_self) ?_
    rintro e he hid t ⟨_, hinline, _, r, hr, _, hfind⟩
    obtain rfl := eq_of_id_eq he hd hid
    exact hrefers r hr t hfind hinline

/-- Within the budget, a search that finds no cycle keeps what is finished in order, and the
definition from which it starts is finished in the end. -/
def KeepsOrder (g : Grammar) (budget : Nat) : Prop :=
  ∀ {path : List Step} {d : Definition} {s : Search} {done : List Nat}, Path g path d →
    g.size < budget + path.length → s.Ordered g (path.map Step.source) done →
    (follow g budget path d s).cycles = [] →
    ∃ done', done ⊆ done' ∧ d.id ∈ done' ∧
      (follow g budget path d s).Ordered g (path.map Step.source) done'

/-- A visit that finds no cycle finishes the target of the reference if that is inline. -/
theorem KeepsOrder.visit {budget : Nat} (h : KeepsOrder g budget) {r : Reference} {s : Search}
    {done : List Nat} (hpath : Path g path d) (hbudget : g.size < budget + (path.length + 1))
    (hr : r ∈ d.body.references) (hs : s.Ordered g (d.id :: path.map Step.source) done)
    (hnone : (visit g budget path d s r).cycles = []) :
    ∃ done', done ⊆ done' ∧
      (∀ t, g.find? r.name = some t → t.isInline = true → t.id ∈ done') ∧
      (visit g budget path d s r).Ordered g (d.id :: path.map Step.source) done' := by
  unfold InlineCycle.visit at hnone ⊢
  split at hnone
  next hfind => exact ⟨done, List.Subset.refl _, by simp [hfind], hs⟩
  next t hfind =>
    split at hnone
    next hnew =>
      have hstep := hpath.step ⟨r, hr, rfl, hfind⟩ hnew
      obtain ⟨done', hsub, hmem, horder⟩ := h hstep hbudget hs hnone
      refine ⟨done', hsub, ?_, horder⟩
      intro t' hfind' _
      obtain rfl : t = t' := Option.some.inj (hfind.symm.trans hfind')
      exact hmem
    next steps hsteps =>
      split at hnone
      · simp at hnone
      next hinline =>
        rw [if_neg hinline]
        refine ⟨done, List.Subset.refl _, ?_, hs⟩
        intro t' hfind' hinline'
        obtain rfl : t = t' := Option.some.inj (hfind.symm.trans hfind')
        exact absurd hinline' hinline

/-- Visits of several references finish the inline ones among their targets. -/
theorem KeepsOrder.visits {budget : Nat} (h : KeepsOrder g budget) {refs : List Reference}
    {s : Search} {done : List Nat} (hpath : Path g path d)
    (hbudget : g.size < budget + (path.length + 1)) (hrefs : refs ⊆ d.body.references)
    (hs : s.Ordered g (d.id :: path.map Step.source) done)
    (hnone : (refs.foldl (InlineCycle.visit g budget path d) s).cycles = []) :
    ∃ done', done ⊆ done' ∧
      (∀ r ∈ refs, ∀ t, g.find? r.name = some t → t.isInline = true → t.id ∈ done') ∧
      (refs.foldl (InlineCycle.visit g budget path d) s).Ordered g
        (d.id :: path.map Step.source) done' := by
  induction refs generalizing s done with
  | nil => exact ⟨done, List.Subset.refl _, by simp, hs⟩
  | cons r refs ih =>
    obtain ⟨hr, hrest⟩ := List.cons_subset.mp hrefs
    rw [List.foldl_cons] at hnone ⊢
    have hvisit := cycles_visits_eq_nil hpath hrest hnone
    obtain ⟨done₁, hsub₁, htarget, hs₁⟩ := h.visit hpath hbudget hr hs hvisit
    obtain ⟨done₂, hsub₂, htargets, hs₂⟩ := ih hrest hs₁ hnone
    refine ⟨done₂, List.Subset.trans hsub₁ hsub₂, ?_, hs₂⟩
    intro r' hr' t hfind hinline
    rcases List.mem_cons.mp hr' with rfl | hr'
    · exact hsub₂ (htarget t hfind hinline)
    · exact htargets r' hr' t hfind hinline

/-- The path never gets longer than the number of definitions, so the budget is never used up. -/
theorem keepsOrder (g : Grammar) (budget : Nat) : KeepsOrder g budget := by
  induction budget with
  | zero =>
    intro path d s done hpath hbudget
    have hlength := hpath.length_lt
    omega
  | succ budget ih =>
    intro path d s done hpath hbudget hs hnone
    have hoff : d.id ∉ path.map Step.source := (List.nodup_cons.mp hpath.nodup).1
    rw [follow_succ] at hnone ⊢
    split at hnone
    next hentered =>
      have hmem := (hs.entered_iff d.id).mp (List.contains_iff_mem.mp hentered)
      rw [if_pos hentered]
      exact ⟨done, List.Subset.refl _, hmem.resolve_left hoff, hs⟩
    next hentered =>
      have hnew : d.id ∉ s.entered := fun hmem => hentered (List.contains_iff_mem.mpr hmem)
      rw [if_neg hentered]
      obtain ⟨done', hsub, htargets, horder⟩ :=
        ih.visits hpath (by omega) (List.Subset.refl _) (hs.enter hnew) hnone
      exact ⟨d.id :: done', List.subset_cons_of_subset _ hsub, List.mem_cons_self,
        horder.leave hpath.way.mem hoff htargets⟩

/-- Searches from several definitions that find no cycle finish all of them. -/
theorem searches_ordered {budget : Nat} (hbudget : g.size < budget) {starts : List Definition}
    (hstarts : starts ⊆ g.definitions) {s : Search} {done : List Nat} (hs : s.Ordered g [] done)
    (hnone : (starts.foldl (fun s d => follow g budget [] d s) s).cycles = []) :
    ∃ done', done ⊆ done' ∧ (∀ d ∈ starts, d.id ∈ done') ∧ g.Finished done' := by
  induction starts generalizing s done with
  | nil => exact ⟨done, List.Subset.refl _, by simp, hs.finished⟩
  | cons d starts ih =>
    obtain ⟨hd, hrest⟩ := List.cons_subset.mp hstarts
    rw [List.foldl_cons] at hnone
    obtain ⟨done₁, hsub₁, hmem, hs₁⟩ :=
      keepsOrder g budget (.start hd) hbudget hs (cycles_searches_eq_nil hrest hnone)
    obtain ⟨done₂, hsub₂, hmems, hfinished⟩ := ih hrest hs₁ hnone
    refine ⟨done₂, List.Subset.trans hsub₁ hsub₂, ?_, hfinished⟩
    intro e he
    rcases List.mem_cons.mp he with rfl | he
    · exact hsub₂ hmem
    · exact hmems e he

/-- If no cycle is reported then no references between inline definitions form one. -/
theorem acyclic_of_inlineCycles_eq_nil (h : g.inlineCycles = []) (d : Definition) :
    ¬ Relation.TransGen g.InlineRefers d d := by
  intro hcycle
  have hd : d ∈ g.definitions := by
    cases hcycle with
    | single hrefers => exact hrefers.mem
    | tail _ hrefers => exact hrefers.mem
  have hstart : Search.Ordered g ⟨[], []⟩ [] [] := ⟨by simp, by simp, .nil⟩
  obtain ⟨done, _, hmem, hfinished⟩ :=
    searches_ordered (Nat.lt_succ_self _) (List.Subset.refl _) hstart h
  exact hfinished.acyclic hd (hmem d hd) hcycle

end InlineCycle

end Peg
