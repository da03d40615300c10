import Peg.Proofs.Analysis.RelevanceWalk

/-!
# What the walk for relevant rules covers

The walk covers a reference if it has walked through the body of the definition that is referred to,
or has begun to expand that. The expansion may have begun without being forced although the
reference is forced. The definition then leads back to where the reference stands. In the end all
references that have come up are covered, and no definition that shows is missing.
-/

namespace Peg.Relevance

open Relation Grammar

variable {g : Grammar} {root a d s t : Definition} {forced : Bool} {r : LiveReference}
  {budget : Nat} {expanding : List Nat}

/-- How far a walk has come, and which definitions have begun to be expanded, each with whether that
was forced. -/
structure Progress where
  walk : Walk
  begun : Set (Definition × Bool)

variable {p p' p'' : Progress}

namespace Progress

/-- The references in a body have come up, at a place that is forced or not. -/
def Entered (g : Grammar) (p : Progress) (d : Definition) (forced : Bool) : Prop :=
  (d ∈ g.definitions ∧ d.id ∈ p.walk.walked ∧ forced = false) ∨ (d, forced) ∈ p.begun

/-- What a reference in the body of `s` leads to has been walked through or has begun to be
expanded. -/
structure Covers (g : Grammar) (p : Progress) (s : Definition) (r : LiveReference) : Prop where
  walked : ∀ {t}, g.find? r.name = some t → t.isInline = false → t.id ∈ p.walk.walked
  kept : ∀ {t}, g.find? r.name = some t → t.isInline = false → t.isDropped = false →
    r.forced = true ∨ g.matchesVariableText t.body = true → t.id ∈ p.walk.relevant
  begun : ∀ {t}, g.find? r.name = some t → t.isInline = true → ∃ forced, (t, forced) ∈ p.begun ∧
    (r.forced = true → forced = true ∨ ReflTransGen g.LiveLeads t s)

/-- The walk has gone on. It covers the references in every body that has been entered on the
way. -/
structure Advance (g : Grammar) (p p' : Progress) : Prop where
  relevant : p.walk.relevant ⊆ p'.walk.relevant
  walked : p.walk.walked ⊆ p'.walk.walked
  begun : p.begun ⊆ p'.begun
  nodup : p.walk.walked.Nodup → p'.walk.walked.Nodup
  lt : (∀ id ∈ p.walk.walked, id < g.size) → ∀ id ∈ p'.walk.walked, id < g.size
  covers : ∀ {d forced}, Entered g p' d forced → ¬ Entered g p d forced →
    ∀ r ∈ d.body.liveReferences forced, Covers g p' d r

/-- What is covered stays covered when the walk goes on. -/
theorem Covers.mono (h : Covers g p s r) (hp : Advance g p p') : Covers g p' s r where
  walked hfind hrule := hp.walked (h.walked hfind hrule)
  kept hfind hrule hkept hvaries := hp.relevant (h.kept hfind hrule hkept hvaries)
  begun hfind hinline := by
    obtain ⟨forced, hbegun, hflag⟩ := h.begun hfind hinline
    exact ⟨forced, hp.begun hbegun, hflag⟩

/-- A walk that stands still covers nothing new. -/
theorem Advance.refl (g : Grammar) (p : Progress) : Advance g p p where
  relevant := List.Subset.refl _
  walked := List.Subset.refl _
  begun := Set.Subset.refl _
  nodup h := h
  lt h := h
  covers hnow hnot := absurd hnow hnot

/-- A walk that goes on twice covers what comes up on either way. -/
theorem Advance.trans (h : Advance g p p') (h' : Advance g p' p'') : Advance g p p'' where
  relevant := List.Subset.trans h.relevant h'.relevant
  walked := List.Subset.trans h.walked h'.walked
  begun := Set.Subset.trans h.begun h'.begun
  nodup hp := h'.nodup (h.nodup hp)
  lt hp := h'.lt (h.lt hp)
  covers {d forced} hnow hnot r hr := by
    by_cases hbetween : Entered g p' d forced
    · exact (h.covers hbetween hnot r hr).mono h'
    · exact h'.covers hnow hbetween r hr

/-- The walk goes on with a reference in the body of `s` while some definitions are being expanded,
all of which lead to `s`. The budget, together with these definitions and those whose bodies have
been walked, exceeds what there can be of both. -/
structure Underway (g : Grammar) (budget : Nat) (p : Progress) (expanding : List Nat)
    (s : Definition) : Prop where
  nodup : expanding.Nodup ∧ p.walk.walked.Nodup
  lt : ∀ id ∈ p.walk.walked, id < g.size
  begun : ∀ id ∈ expanding, ∃ a ∈ g.definitions, a.id = id ∧ ReflTransGen g.LiveLeads a s ∧
    ∃ forced, (a, forced) ∈ p.begun
  enough : 2 * g.size < budget + expanding.length + p.walk.walked.length

/-- While a definition is under way the budget is not used up. -/
theorem Underway.budget_pos (h : Underway g budget p expanding s) : 0 < budget := by
  have hexpanding : expanding.length ≤ g.size := by
    refine length_le_of_nodup h.nodup.1 fun id hid => ?_
    obtain ⟨a, ha, rfl, _⟩ := h.begun id hid
    exact id_lt_size ha
  have hwalked := length_le_of_nodup h.nodup.2 h.lt
  have henough := h.enough
  omega

/-- A definition stays under way when the walk goes on. -/
theorem Underway.mono (h : Underway g budget p expanding s) (hp : Advance g p p') :
    Underway g budget p' expanding s where
  nodup := ⟨h.nodup.1, hp.nodup h.nodup.2⟩
  lt := hp.lt h.lt
  begun id hid := by
    obtain ⟨a, ha, hsame, hleads, forced, hbegun⟩ := h.begun id hid
    exact ⟨a, ha, hsame, hleads, forced, hp.begun hbegun⟩
  enough := by
    have hlength := h.nodup.2.length_le_of_subset hp.walked
    have henough := h.enough
    omega

/-- The progress when an inline definition begins to be expanded. -/
def expand (p : Progress) (a : Definition) (forced : Bool) : Progress :=
  { p with begun := insert (a, forced) p.begun }

/-- The progress when a definition that is not inline is met. -/
def arrive (g : Grammar) (p : Progress) (forced : Bool) (t : Definition) : Progress :=
  { p with walk := p.walk.arrive g forced t }

/-- The progress when the body of a definition begins to be walked. -/
def enter (p : Progress) (t : Definition) : Progress :=
  { p with walk := { p.walk with walked := t.id :: p.walk.walked } }

/-- An inline definition that is not being expanded can be expanded within the budget. -/
theorem Underway.expand (h : Underway g (budget + 1) p expanding s) (hleads : g.LiveLeads s a)
    (ha : a ∈ g.definitions) (hnew : a.id ∉ expanding) (forced : Bool) :
    Underway g budget (p.expand a forced) (a.id :: expanding) a where
  nodup := ⟨List.nodup_cons.mpr ⟨hnew, h.nodup.1⟩, h.nodup.2⟩
  lt := h.lt
  begun id hid := by
    rcases List.mem_cons.mp hid with rfl | hid
    · exact ⟨a, ha, rfl, .refl, forced, Set.mem_insert _ _⟩
    · obtain ⟨e, he, hsame, hback, f, hbegun⟩ := h.begun id hid
      exact ⟨e, he, hsame, hback.tail hleads, f, Set.mem_insert_of_mem _ hbegun⟩
  enough := by
    have henough := h.enough
    simp only [List.length_cons, Progress.expand]
    omega

/-- A definition that has not been walked through can be entered within the budget. -/
theorem Underway.enter (h : Underway g (budget + 1) p expanding s) (hleads : g.LiveLeads s t)
    (ht : t ∈ g.definitions) (hnew : t.id ∉ p.walk.walked) :
    Underway g budget (p.enter t) expanding t where
  nodup := ⟨h.nodup.1, List.nodup_cons.mpr ⟨hnew, h.nodup.2⟩⟩
  lt := List.forall_mem_cons.mpr ⟨id_lt_size ht, h.lt⟩
  begun id hid := by
    obtain ⟨e, he, hsame, hback, hbegun⟩ := h.begun id hid
    exact ⟨e, he, hsame, hback.tail hleads, hbegun⟩
  enough := by
    have henough := h.enough
    simp only [Progress.enter, List.length_cons]
    omega

/-- Arriving at a definition is a way of going on. -/
theorem advance_arrive (g : Grammar) (p : Progress) (forced : Bool) (t : Definition) :
    Advance g p (p.arrive g forced t) where
  relevant := Walk.relevant_subset_arrive
  walked := by simp only [arrive, Walk.walked_arrive, List.Subset.refl]
  begun := Set.Subset.refl _
  nodup := by simp only [arrive, Walk.walked_arrive, imp_self]
  lt := by simp only [arrive, Walk.walked_arrive, imp_self]
  covers hnow hnot := by
    simp only [Entered, arrive, Walk.walked_arrive] at hnow hnot
    exact absurd hnow hnot

/-- An expansion is over when the references in the body are covered. -/
theorem Advance.of_expand (h : Advance g (p.expand a forced) p')
    (hall : ∀ r ∈ a.body.liveReferences forced, Covers g p' a r) : Advance g p p' where
  relevant := h.relevant
  walked := h.walked
  begun := Set.Subset.trans (Set.subset_insert _ _) h.begun
  nodup := h.nodup
  lt := h.lt
  covers {d f} hnow hnot r hr := by
    by_cases hbefore : Entered g (p.expand a forced) d f
    · -- What has been entered but not before is the expansion itself.
      rcases hbefore with hwalked | hbegun
      · exact absurd (Or.inl hwalked) hnot
      · rcases Set.mem_insert_iff.mp hbegun with hself | hbegun
        · cases hself
          exact hall r hr
        · exact absurd (Or.inr hbegun) hnot
    · exact h.covers hnow hbefore r hr

/-- A body has been walked through when the references in it are covered. -/
theorem Advance.of_enter (h : Advance g (p.enter t) p') (ht : t ∈ g.definitions)
    (hnew : t.id ∉ p.walk.walked)
    (hall : ∀ r ∈ t.body.liveReferences false, Covers g p' t r) : Advance g p p' where
  relevant := h.relevant
  walked := fun _ hid => h.walked (List.mem_cons_of_mem _ hid)
  begun := h.begun
  nodup hp := h.nodup (List.nodup_cons.mpr ⟨hnew, hp⟩)
  lt hp := h.lt (List.forall_mem_cons.mpr ⟨id_lt_size ht, hp⟩)
  covers {d f} hnow hnot r hr := by
    by_cases hbefore : Entered g (p.enter t) d f
    · -- What has been entered but not before is the body itself.
      rcases hbefore with ⟨hd, hwalked, rfl⟩ | hbegun
      · rcases List.mem_cons.mp hwalked with hself | hwalked
        · obtain rfl := eq_of_id_eq hd ht hself
          exact hall r hr
        · exact absurd (Or.inl ⟨hd, hwalked, rfl⟩) hnot
      · exact absurd (Or.inr hbegun) hnot
    · exact h.covers hnow hbefore r hr

end Progress

open Progress

/-- Within the budget, following a live reference covers it, and whatever comes up on the way. -/
def CoversReferences (g : Grammar) (budget : Nat) : Prop :=
  ∀ {p : Progress} {expanding : List Nat} {s : Definition} {forced : Bool} {r : LiveReference},
    Underway g budget p expanding s → r ∈ s.body.liveReferences forced →
    ∃ p', p'.walk = follow g budget expanding r p.walk ∧ Advance g p p' ∧ Covers g p' s r

/-- The same holds of several references in one body. -/
theorem CoversReferences.all (h : CoversReferences g budget) {rs : List LiveReference}
    (hrs : rs ⊆ s.body.liveReferences forced) (hp : Underway g budget p expanding s) :
    ∃ p', p'.walk = rs.foldl (fun w r => follow g budget expanding r w) p.walk ∧
      Advance g p p' ∧ ∀ r ∈ rs, Covers g p' s r := by
  induction rs generalizing p with
  | nil => exact ⟨p, rfl, .refl g p, by simp⟩
  | cons r rs ih =>
    obtain ⟨hr, hrest⟩ := List.cons_subset.mp hrs
    obtain ⟨p₁, hwalk₁, hadvance₁, hcovers⟩ := h hp hr
    obtain ⟨p₂, hwalk₂, hadvance₂, hall⟩ := ih hrest (hp.mono hadvance₁)
    refine ⟨p₂, ?_, hadvance₁.trans hadvance₂, ?_⟩
    · rw [hwalk₂, hwalk₁, List.foldl_cons]
    · exact List.forall_mem_cons.mpr ⟨hcovers.mono hadvance₂, hall⟩

/-- The budget is never used up, so all references are covered. -/
theorem coversReferences (g : Grammar) (budget : Nat) : CoversReferences g budget := by
  induction budget with
  | zero =>
    intro p expanding s forced r hp
    exact absurd hp.budget_pos (Nat.lt_irrefl 0)
  | succ budget ih =>
    intro p expanding s forced r hp hr
    rw [follow_succ]
    split
    next hfind => exact ⟨p, rfl, .refl g p, by constructor <;> simp [hfind]⟩
    next t hfind =>
      have ht := mem_of_find? hfind
      obtain ⟨inner, hrefers, _⟩ := liveRefers_of_mem hr hfind
      have hleads : g.LiveLeads s t := ⟨inner, hrefers⟩
      split
      next hinline =>
        have hcovers : ∀ {p' : Progress} {f : Bool}, (t, f) ∈ p'.begun →
            (r.forced = true → f = true ∨ ReflTransGen g.LiveLeads t s) → Covers g p' s r := by
          intro p' f hbegun hflag
          constructor <;> intro t' hfind' <;> cases hfind.symm.trans hfind'
          · simp [hinline]
          · simp [hinline]
          · exact fun _ => ⟨f, hbegun, hflag⟩
        split
        next hagain =>
          obtain ⟨a, ha, hid, hback, f, hbegun⟩ := hp.begun t.id (List.contains_iff_mem.mp hagain)
          obtain rfl := eq_of_id_eq ha ht hid
          exact ⟨p, rfl, .refl g p, hcovers hbegun fun _ => Or.inr hback⟩
        next hnew =>
          have hnew : t.id ∉ expanding := fun h => hnew (List.contains_iff_mem.mpr h)
          obtain ⟨p', hwalk, hadvance, hall⟩ := ih.all (List.Subset.refl _)
            (hp.expand hleads ht hnew r.forced)
          exact ⟨p', hwalk, hadvance.of_expand hall,
            hcovers (hadvance.begun (Set.mem_insert _ _)) Or.inl⟩
      next hrule =>
        have hcovers : ∀ {p' : Progress}, t.id ∈ p'.walk.walked →
            (p.arrive g r.forced t).walk.relevant ⊆ p'.walk.relevant → Covers g p' s r := by
          intro p' hwalked hsub
          constructor <;> intro t' hfind' <;> cases hfind.symm.trans hfind'
          · exact fun _ => hwalked
          · exact fun _ hkept hvaries => hsub (Walk.mem_relevant_arrive hkept hvaries)
          · exact fun h => absurd h hrule
        have harrive := advance_arrive g p r.forced t
        split
        next hagain =>
          have hwalked := harrive.walked (List.contains_iff_mem.mp hagain)
          exact ⟨_, rfl, harrive, hcovers hwalked (List.Subset.refl _)⟩
        next hnew =>
          have hnew : t.id ∉ (p.arrive g r.forced t).walk.walked := by
            simpa [Progress.arrive, Walk.walked_arrive] using hnew
          obtain ⟨p', hwalk, hadvance, hall⟩ := ih.all (List.Subset.refl _)
            ((hp.mono harrive).enter hleads ht hnew)
          refine ⟨p', ?_, harrive.trans (hadvance.of_enter ht hnew hall),
            hcovers (hadvance.walked List.mem_cons_self) hadvance.relevant⟩
          rw [hwalk]
          simp only [Progress.enter, Progress.arrive, Walk.walked_arrive]

end Peg.Relevance
