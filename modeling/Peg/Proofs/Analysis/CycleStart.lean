import Mathlib.Logic.Relation
import Peg.Proofs.Analysis.CycleSearch
import Peg.Proofs.Grammar.Rearranged

/-!
# A search that comes to a cycle at an inline definition

The search enters everything to which its start leads. While an inline definition stays on the path,
a reference back to it is reported from wherever it comes. So a grammar is reported if the search
comes to a cycle through an inline definition by way of this definition, so that nothing else on the
cycle is on the path, whatever else lies on the way.
-/

namespace Peg

open Grammar

namespace Grammar

variable {g : Grammar} {d x t : Definition}

/-- References lead from `x` to `t`, and none of them is a reference of `d`. -/
def LeadsAround (g : Grammar) (d x t : Definition) : Prop :=
  Relation.ReflTransGen (fun e t => e ≠ d ∧ g.Leads e t) x t

/-- A cycle of references runs through `d`, and to all others on it `x` leads only through `d`. -/
def CycleBehind (g : Grammar) (d x : Definition) : Prop :=
  Relation.TransGen (fun e t => g.Leads e t ∧ (t = d ∨ ¬ g.LeadsAround d x t)) d d

/-- A way around a definition is a way. -/
theorem LeadsAround.leads (h : g.LeadsAround d x t) : Relation.ReflTransGen g.Leads x t :=
  Relation.ReflTransGen.mono (fun _ _ hstep => hstep.2) _ _ h

/-- A way around a definition stays in the grammar. -/
theorem LeadsAround.mem (h : g.LeadsAround d x t) (hx : x ∈ g.definitions) :
    t ∈ g.definitions := by
  cases h with
  | refl => exact hx
  | tail _ hlast => exact hlast.2.mem

/-- A definition leads nowhere around itself. -/
theorem LeadsAround.eq_self (h : g.LeadsAround d d t) : t = d := by
  cases Relation.ReflTransGen.cases_head h with
  | inl heq => exact heq.symm
  | inr hhead =>
    obtain ⟨_, ⟨hne, _⟩, _⟩ := hhead
    exact absurd rfl hne

/-- A definition that refers to one definition only leads nowhere else around this one. -/
theorem LeadsAround.eq_or_eq (h : g.LeadsAround d x t)
    (honly : ∀ t, g.Leads x t → t = d) : t = x ∨ t = d := by
  induction h with
  | refl => exact Or.inl rfl
  | tail _ hlast ih =>
    obtain ⟨hne, hleads⟩ := hlast
    obtain rfl := ih.resolve_right hne
    exact Or.inr (honly _ hleads)

/-- From where a cycle starts, there is no other way to the rest of it. -/
theorem cycleBehind_self (h : Relation.TransGen g.Leads d d) : g.CycleBehind d d := by
  refine Relation.TransGen.mono (fun _ t hleads => ⟨hleads, ?_⟩) _ _ h
  by_cases ht : t = d
  · exact Or.inl ht
  · exact Or.inr fun haround => ht haround.eq_self

end Grammar

namespace InlineCycle

variable {g : Grammar} {first x d t : Definition} {path : List Step} {onPath : List Nat}

/-- What has been entered is on the path, or all its references have been followed and none of them
was to `first`. -/
structure Search.Explored (g : Grammar) (first : Definition) (s : Search) (onPath : List Nat) :
    Prop where
  entered : ∀ id ∈ onPath, id ∈ s.entered
  explored : ∀ e ∈ g.definitions, e.id ∈ s.entered → e.id ∈ onPath ∨
    ∀ t, g.Leads e t → t.id ∈ s.entered ∧ t ≠ first

/-- A definition that is entered gets on the path. -/
theorem Search.Explored.enter {s : Search} (h : s.Explored g first onPath) :
    Search.Explored g first { s with entered := d.id :: s.entered } (d.id :: onPath) where
  entered id hid := by
    rcases List.mem_cons.mp hid with rfl | hid
    · exact List.mem_cons_self
    · exact List.mem_cons_of_mem _ (h.entered id hid)
  explored e he hentered := by
    rcases List.mem_cons.mp hentered with hid | hentered
    · exact Or.inl (hid ▸ List.mem_cons_self)
    · rcases h.explored e he hentered with hpath | htargets
      · exact Or.inl (List.mem_cons_of_mem _ hpath)
      · refine Or.inr fun t hleads => ?_
        obtain ⟨htarget, hne⟩ := htargets t hleads
        exact ⟨List.mem_cons_of_mem _ htarget, hne⟩

/-- A definition may be left when its references have been followed. -/
theorem Search.Explored.leave {s : Search} (h : s.Explored g first (d.id :: onPath))
    (hd : d ∈ g.definitions) (htargets : ∀ t, g.Leads d t → t.id ∈ s.entered ∧ t ≠ first) :
    s.Explored g first onPath where
  entered id hid := h.entered id (List.mem_cons_of_mem _ hid)
  explored e he hentered := by
    rcases h.explored e he hentered with hpath | hdone
    · rcases List.mem_cons.mp hpath with hid | hpath
      · obtain rfl := eq_of_id_eq he hd hid
        exact Or.inr htargets
      · exact Or.inl hpath
    · exact Or.inr hdone

/-- The start of a cycle has not been left behind unless the path has been on the cycle before: from
one definition to the next, all of the cycle would have been explored without a reference back. -/
theorem Search.Explored.notMem_entered {s : Search} (h : s.Explored g first onPath)
    (hbehind : g.CycleBehind first x) (hfirst : first ∈ g.definitions)
    (hoff : first.id ∉ onPath)
    (honPath : ∀ e ∈ g.definitions, e.id ∈ onPath → g.LeadsAround first x e) :
    first.id ∉ s.entered := by
  intro hentered
  -- Off the path a step along the cycle has been explored, and it does not lead back to the path.
  have hstep : ∀ {e t}, e ∈ g.definitions → e.id ∈ s.entered → e.id ∉ onPath →
      (g.Leads e t ∧ (t = first ∨ ¬ g.LeadsAround first x t)) →
      t ∈ g.definitions ∧ t.id ∈ s.entered ∧ t.id ∉ onPath ∧ t ≠ first := by
    rintro e t he hin heoff ⟨hleads, hbeyond⟩
    obtain ⟨htarget, hne⟩ := (h.explored e he hin).resolve_left heoff t hleads
    have htoff : t.id ∉ onPath := fun hon => hbeyond.resolve_left hne (honPath t hleads.mem hon)
    exact ⟨hleads.mem, htarget, htoff, hne⟩
  have hcycle : ∀ t, Relation.TransGen
      (fun e t => g.Leads e t ∧ (t = first ∨ ¬ g.LeadsAround first x t)) first t →
      t ∈ g.definitions ∧ t.id ∈ s.entered ∧ t.id ∉ onPath ∧ t ≠ first := by
    intro t hway
    induction hway with
    | single hlast => exact hstep hfirst hentered hoff hlast
    | tail _ hlast ih =>
      obtain ⟨hmem, hein, heoff, _⟩ := ih
      exact hstep hmem hein heoff hlast
  obtain ⟨_, _, _, hne⟩ := hcycle first hbehind
  exact hne rfl

/-- A path from `x` has come through `first`, or it has been only where `x` leads around it. -/
def OnTheWay (g : Grammar) (first x : Definition) (onPath : List Nat) : Prop :=
  first.id ∈ onPath ∨ ∀ e ∈ g.definitions, e.id ∈ onPath → g.LeadsAround first x e

/-- A path that has not come through `first` goes on around it. -/
theorem OnTheWay.leadsAround (h : OnTheWay g first x (d.id :: onPath))
    (hoff : first.id ∉ d.id :: onPath) (hd : d ∈ g.definitions) (hleads : g.Leads d t) :
    g.LeadsAround first x t := by
  have hne : d ≠ first := fun heq => hoff (heq ▸ List.mem_cons_self)
  exact .tail (h.resolve_left hoff d hd List.mem_cons_self) ⟨hne, hleads⟩

/-- A path goes on to a definition that it leads to. -/
theorem OnTheWay.step (h : OnTheWay g first x (d.id :: onPath)) (hd : d ∈ g.definitions)
    (hleads : g.Leads d t) : OnTheWay g first x (t.id :: d.id :: onPath) := by
  by_cases hoff : first.id ∈ d.id :: onPath
  · exact Or.inl (List.mem_cons_of_mem _ hoff)
  · refine Or.inr fun e he hid => ?_
    rcases List.mem_cons.mp hid with hid | hid
    · obtain rfl := eq_of_id_eq he hleads.mem hid
      exact h.leadsAround hoff hd hleads
    · exact h.resolve_left hoff e he hid

/-- Within the budget, a search from `x` that finds no cycle explores from wherever it comes. -/
def Explores (g : Grammar) (first x : Definition) (budget : Nat) : Prop :=
  ∀ {path : List Step} {d : Definition} {s : Search}, Path g path d →
    g.size < budget + path.length → OnTheWay g first x (d.id :: path.map Step.source) →
    s.Explored g first (path.map Step.source) → (follow g budget path d s).cycles = [] →
    (follow g budget path d s).Explored g first (path.map Step.source) ∧
      s.entered ⊆ (follow g budget path d s).entered ∧ d.id ∈ (follow g budget path d s).entered

/-- A visit that finds no cycle enters the target of the reference, which is not the start of the
cycle. -/
theorem Explores.visit {budget : Nat} (h : Explores g first x budget)
    (hfirst : first ∈ g.definitions) (hinline : first.isInline = true)
    (hbehind : g.LeadsAround first x first → g.CycleBehind first x) {r : Reference} {s : Search}
    (hpath : Path g path d) (hbudget : g.size < budget + (path.length + 1))
    (hr : r ∈ d.body.references) (hway : OnTheWay g first x (d.id :: path.map Step.source))
    (hs : s.Explored g first (d.id :: path.map Step.source))
    (hnone : (visit g budget path d s r).cycles = []) :
    (visit g budget path d s r).Explored g first (d.id :: path.map Step.source) ∧
      s.entered ⊆ (visit g budget path d s r).entered ∧
      ∀ t, g.find? r.name = some t → t.id ∈ (visit g budget path d s r).entered ∧ t ≠ first := by
  unfold InlineCycle.visit at hnone ⊢
  split at hnone
  next hfind => exact ⟨hs, List.Subset.refl _, by simp [hfind]⟩
  next t hfind =>
    have hleads : g.Leads d t := ⟨r.span, r, hr, rfl, hfind⟩
    split at hnone
    next hnew =>
      have hoff : t.id ∉ d.id :: path.map Step.source := since?_eq_none.mp hnew
      obtain ⟨hexplored, hsub, hmem⟩ := h (hpath.step ⟨r, hr, rfl, hfind⟩ hnew) hbudget
        (hway.step hpath.way.mem hleads) hs hnone
      have hne : t ≠ first := by
        rintro rfl
        have haround := hway.leadsAround hoff hpath.way.mem hleads
        exact hexplored.notMem_entered (hbehind haround) hfirst hoff (hway.resolve_left hoff) hmem
      refine ⟨hexplored, hsub, fun t' hfind' => ?_⟩
      obtain rfl : t = t' := Option.some.inj (hfind.symm.trans hfind')
      exact ⟨hmem, hne⟩
    next steps hsteps =>
      split at hnone
      · simp at hnone
      next hcall =>
        rw [if_neg hcall]
        refine ⟨hs, List.Subset.refl _, fun t' hfind' => ?_⟩
        obtain rfl : t = t' := Option.some.inj (hfind.symm.trans hfind')
        have hon : t.id ∈ d.id :: path.map Step.source := by
          by_contra hoff
          have hnew : since? t.id (⟨d.id, r.span⟩ :: path) = none := since?_eq_none.mpr hoff
          rw [hnew] at hsteps
          cases hsteps
        exact ⟨hs.entered t.id hon, fun heq => hcall (heq ▸ hinline)⟩

/-- Visits of several references enter all their targets. -/
theorem Explores.visits {budget : Nat} (h : Explores g first x budget)
    (hfirst : first ∈ g.definitions) (hinline : first.isInline = true)
    (hbehind : g.LeadsAround first x first → g.CycleBehind first x) {refs : List Reference}
    {s : Search} (hpath : Path g path d) (hbudget : g.size < budget + (path.length + 1))
    (hrefs : refs ⊆ d.body.references)
    (hway : OnTheWay g first x (d.id :: path.map Step.source))
    (hs : s.Explored g first (d.id :: path.map Step.source))
    (hnone : (refs.foldl (InlineCycle.visit g budget path d) s).cycles = []) :
    (refs.foldl (InlineCycle.visit g budget path d) s).Explored g first
        (d.id :: path.map Step.source) ∧
      s.entered ⊆ (refs.foldl (InlineCycle.visit g budget path d) s).entered ∧
      ∀ r ∈ refs, ∀ t, g.find? r.name = some t →
        t.id ∈ (refs.foldl (InlineCycle.visit g budget path d) s).entered ∧ t ≠ first := by
  induction refs generalizing s with
  | nil => exact ⟨hs, List.Subset.refl _, by simp⟩
  | cons r refs ih =>
    obtain ⟨hr, hrest⟩ := List.cons_subset.mp hrefs
    rw [List.foldl_cons] at hnone ⊢
    have hvisit := cycles_visits_eq_nil hpath hrest hnone
    obtain ⟨hs₁, hsub₁, htarget⟩ :=
      h.visit hfirst hinline hbehind hpath hbudget hr hway hs hvisit
    obtain ⟨hs₂, hsub₂, htargets⟩ := ih hrest hs₁ hnone
    refine ⟨hs₂, List.Subset.trans hsub₁ hsub₂, ?_⟩
    intro r' hr' t hfind
    rcases List.mem_cons.mp hr' with rfl | hr'
    · exact ⟨hsub₂ (htarget t hfind).1, (htarget t hfind).2⟩
    · exact htargets r' hr' t hfind

/-- The path never gets longer than the number of definitions, so everything is explored. -/
theorem explores (hfirst : first ∈ g.definitions) (hinline : first.isInline = true)
    (hbehind : g.LeadsAround first x first → g.CycleBehind first x) (budget : Nat) :
    Explores g first x budget := by
  induction budget with
  | zero =>
    intro path d s hpath hbudget
    have hlength := hpath.length_lt
    omega
  | succ budget ih =>
    intro path d s hpath hbudget hway hs hnone
    rw [follow_succ] at hnone ⊢
    split at hnone
    next hentered =>
      rw [if_pos hentered]
      exact ⟨hs, List.Subset.refl _, List.contains_iff_mem.mp hentered⟩
    next hentered =>
      rw [if_neg hentered]
      obtain ⟨hexplored, hsub, htargets⟩ := ih.visits hfirst hinline hbehind hpath (by omega)
        (List.Subset.refl _) hway hs.enter hnone
      refine ⟨hexplored.leave hpath.way.mem ?_, ?_, hsub List.mem_cons_self⟩
      · rintro t ⟨_, r, hr, _, hfind⟩
        exact htargets r hr t hfind
      · exact fun id hid => hsub (List.mem_cons_of_mem _ hid)

/-- Searches from several definitions that find no cycle enter them all and explore from there. -/
theorem searches_explored (hfirst : first ∈ g.definitions) (hinline : first.isInline = true)
    {starts : List Definition} (hstarts : starts ⊆ g.definitions)
    (hbehind : ∀ x ∈ starts, Relation.ReflTransGen g.Leads x first → g.CycleBehind first x)
    {s : Search} (hs : s.Explored g first [])
    (hnone : (starts.foldl (fun s d => follow g (g.size + 1) [] d s) s).cycles = []) :
    (starts.foldl (fun s d => follow g (g.size + 1) [] d s) s).Explored g first [] ∧
      s.entered ⊆ (starts.foldl (fun s d => follow g (g.size + 1) [] d s) s).entered ∧
      ∀ x ∈ starts, x.id ∈ (starts.foldl (fun s d => follow g (g.size + 1) [] d s) s).entered := by
  induction starts generalizing s with
  | nil => exact ⟨hs, List.Subset.refl _, by simp⟩
  | cons x starts ih =>
    obtain ⟨hx, hrest⟩ := List.cons_subset.mp hstarts
    rw [List.foldl_cons] at hnone ⊢
    have hway : OnTheWay g first x [x.id] := by
      refine Or.inr fun e he hid => ?_
      obtain rfl := eq_of_id_eq he hx (List.mem_singleton.mp hid)
      exact .refl
    obtain ⟨hs₁, hsub₁, hmem⟩ := explores hfirst hinline
      (fun haround => hbehind x List.mem_cons_self haround.leads) (g.size + 1) (.start hx)
      (by simp) hway hs (cycles_searches_eq_nil hrest hnone)
    obtain ⟨hs₂, hsub₂, hmems⟩ :=
      ih hrest (fun x hx => hbehind x (List.mem_cons_of_mem _ hx)) hs₁ hnone
    refine ⟨hs₂, List.Subset.trans hsub₁ hsub₂, ?_⟩
    intro e he
    rcases List.mem_cons.mp he with rfl | he
    · exact hsub₂ hmem
    · exact hmems e he

/-- A grammar is reported if some of the definitions at its beginning lead to an inline definition,
and each of these has a cycle through the inline definition behind that definition. -/
theorem inlineCycles_ne_nil_of_cycleBehind {starts : List Definition}
    (hstarts : starts <+: g.definitions) (hinline : first.isInline = true)
    (hbehind : ∀ x ∈ starts, Relation.ReflTransGen g.Leads x first → g.CycleBehind first x)
    (hx : x ∈ starts) (hleads : Relation.ReflTransGen g.Leads x first) : g.inlineCycles ≠ [] := by
  intro hnone
  obtain ⟨rest, hdefinitions⟩ := hstarts
  have hsub : starts ⊆ g.definitions := hdefinitions ▸ List.subset_append_left starts rest
  have hrest : rest ⊆ g.definitions := hdefinitions ▸ List.subset_append_right starts rest
  have hcycle := hbehind x hx hleads
  have hfirst : first ∈ g.definitions := mem_of_cycle (fun hstep => hstep.1.mem) hcycle
  rw [inlineCycles, ← hdefinitions, List.foldl_append] at hnone
  have hstart : Search.Explored g first ⟨[], []⟩ [] := ⟨by simp, by simp⟩
  obtain ⟨hexplored, _, hentered⟩ := searches_explored hfirst hinline hsub hbehind hstart
    (cycles_searches_eq_nil hrest hnone)
  have hreached : ∀ t, Relation.ReflTransGen g.Leads x t → t ∈ g.definitions ∧
      t.id ∈ (starts.foldl (fun s d => follow g (g.size + 1) [] d s) ⟨[], []⟩).entered := by
    intro t hway
    induction hway with
    | refl => exact ⟨hsub hx, hentered x hx⟩
    | tail _ hlast ih =>
      have htargets := (hexplored.explored _ ih.1 ih.2).resolve_left List.not_mem_nil
      exact ⟨hlast.mem, (htargets _ hlast).1⟩
  exact hexplored.notMem_entered hcycle hfirst List.not_mem_nil (by simp) (hreached first hleads).2

end InlineCycle

end Peg
