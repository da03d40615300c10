import Mathlib.Data.Set.Insert
import Mathlib.Logic.Relation
import Peg.Proofs.Grammar.LiveReferences
import Peg.Proofs.Grammar.References

/-!
# The walk for relevant rules

Relevance is defined on expanded bodies, in which the live references to inline definitions are
replaced by the bodies of these. The walk keeps relevant rules only. It expands an inline definition
wherever it meets one, unless that is being expanded already, and it walks through the body of any
other definition once. So what it passes over is a forced reference to an inline definition that is
being expanded unforced. Such a definition leads back to itself.
-/

namespace Peg

open Relation

namespace Grammar

/-- The body of `d` has a live reference to `t`, which is forced or not. -/
def LiveRefers (g : Grammar) (d t : Definition) (forced : Bool) : Prop :=
  ∃ name, d.body.HasLive name forced ∧ g.find? name = some t

/-- The body of `d` has a live reference to `t`. -/
def LiveLeads (g : Grammar) (d t : Definition) : Prop :=
  ∃ forced, g.LiveRefers d t forced

/-- The expanded body of `d` has a live reference to `t`. What takes the place of a forced reference
is forced as a whole. -/
inductive Meets (g : Grammar) (d : Definition) : Definition → Bool → Prop where
  | here {t : Definition} {forced : Bool} : g.LiveRefers d t forced → g.Meets d t forced
  | inside {a t : Definition} {outer inner : Bool} : g.Meets d a outer → a.isInline = true →
      g.LiveRefers a t inner → g.Meets d t (outer || inner)

/-- The root shows, and so does every definition that is not inline and is met in the expanded body
of a definition that shows. -/
inductive Shown (g : Grammar) (root : Definition) : Definition → Prop where
  | root : g.Shown root root
  | met {d t : Definition} {forced : Bool} : g.Shown root d → g.Meets d t forced →
      t.isInline = false → g.Shown root t

/-- The root is relevant, and so is a rule that is met, if it is forced there or matches variable
text. Rules that are dropped never are. -/
inductive IsRelevant (g : Grammar) (root : Definition) : Definition → Prop where
  | root : root.isDropped = false → g.IsRelevant root root
  | met {d t : Definition} {forced : Bool} : g.Shown root d → g.Meets d t forced →
      t.isInline = false → t.isDropped = false →
      forced = true ∨ g.matchesVariableText t.body = true → g.IsRelevant root t

variable {g : Grammar} {root a d s t : Definition} {forced inner : Bool} {r : LiveReference}

/-- A live reference is to a definition of the grammar. -/
theorem LiveRefers.mem (h : g.LiveRefers d t forced) : t ∈ g.definitions := by
  obtain ⟨_, _, hfind⟩ := h
  exact mem_of_find? hfind

/-- What is met in an expanded body is a definition of the grammar. -/
theorem Meets.mem (h : g.Meets d t forced) : t ∈ g.definitions := by
  cases h with
  | here hrefers => exact hrefers.mem
  | inside _ _ hrefers => exact hrefers.mem

/-- Whatever shows is a definition of the grammar. -/
theorem Shown.mem (hroot : root ∈ g.definitions) (h : g.Shown root d) : d ∈ g.definitions := by
  cases h with
  | root => exact hroot
  | met _ hmeets => exact hmeets.mem

/-- Whatever the walk through a body finds is a live reference. -/
theorem liveRefers_of_mem (hr : r ∈ d.body.liveReferences forced)
    (hfind : g.find? r.name = some t) :
    ∃ inner, g.LiveRefers d t inner ∧ r.forced = (forced || inner) := by
  obtain ⟨inner, hlive, hforced⟩ := Element.mem_liveReferences_iff.mp hr
  exact ⟨inner, ⟨r.name, hlive, hfind⟩, hforced⟩

/-- The walk through a body finds every live reference. -/
theorem LiveRefers.exists_mem (h : g.LiveRefers d t inner) (forced : Bool) :
    ∃ r ∈ d.body.liveReferences forced,
      g.find? r.name = some t ∧ r.forced = (forced || inner) := by
  obtain ⟨name, hlive, hfind⟩ := h
  have hmem : (⟨name, forced || inner⟩ : LiveReference) ∈ d.body.liveReferences forced :=
    Element.mem_liveReferences_iff.mpr ⟨inner, hlive, rfl⟩
  exact ⟨_, hmem, hfind, rfl⟩

/-- Live references are found by a walk that starts unforced. -/
theorem liveRefers_iff : g.LiveRefers d t forced ↔
    ∃ r ∈ d.body.liveReferences false, g.find? r.name = some t ∧ r.forced = forced := by
  constructor
  · intro h
    simpa using h.exists_mem false
  · rintro ⟨r, hr, hfind, rfl⟩
    obtain ⟨inner, hrefers, hforced⟩ := liveRefers_of_mem hr hfind
    rwa [hforced, Bool.false_or]

end Grammar

namespace Relevance

open Grammar

variable {g : Grammar} {root a d s t : Definition} {forced : Bool} {r : LiveReference} {w : Walk}

namespace Walk

/-- What becomes of a walk when it meets a definition that is not inline, before it goes on. -/
def arrive (w : Walk) (g : Grammar) (forced : Bool) (t : Definition) : Walk :=
  if !t.isDropped && (forced || g.matchesVariableText t.body) then w.keep t.id else w

/-- Keeping a rule does not walk through it. -/
theorem walked_keep (w : Walk) (id : Nat) : (w.keep id).walked = w.walked := by
  unfold keep
  split <;> rfl

/-- Behind keeping a rule, this rule and all others that were kept are kept. -/
theorem mem_relevant_keep {id other : Nat} :
    other ∈ (w.keep id).relevant ↔ other ∈ w.relevant ∨ other = id := by
  unfold keep
  split
  next hmem =>
    have hfound : id ∈ w.relevant := List.contains_iff_mem.mp hmem
    exact ⟨Or.inl, fun h => h.elim (fun h => h) fun h => h ▸ hfound⟩
  next => simp

/-- No rule is kept twice. -/
theorem nodup_keep {id : Nat} (h : w.relevant.Nodup) : (w.keep id).relevant.Nodup := by
  unfold keep
  split
  · exact h
  next hnew =>
    have hfresh : id ∉ w.relevant := fun hmem => hnew (List.contains_iff_mem.mpr hmem)
    simpa using h.concat hfresh

/-- Arriving at a definition does not walk through it. -/
theorem walked_arrive : (w.arrive g forced t).walked = w.walked := by
  unfold arrive
  split
  · exact walked_keep w t.id
  · rfl

/-- Arriving at a definition gives up no rule that was kept. -/
theorem relevant_subset_arrive : w.relevant ⊆ (w.arrive g forced t).relevant := by
  unfold arrive
  split
  · exact fun _ hid => mem_relevant_keep.mpr (Or.inl hid)
  · exact List.Subset.refl _

/-- A rule that is not dropped is kept on arrival if it is forced or matches variable text. -/
theorem mem_relevant_arrive (hkept : t.isDropped = false)
    (hvaries : forced = true ∨ g.matchesVariableText t.body = true) :
    t.id ∈ (w.arrive g forced t).relevant := by
  rw [arrive, if_pos (by simpa [hkept] using hvaries)]
  exact mem_relevant_keep.mpr (Or.inr rfl)

end Walk

/-- A live reference is followed into an inline definition unless that is being expanded, and into
any other one that has not been walked through. -/
theorem follow_succ (g : Grammar) (budget : Nat) (expanding : List Nat) (r : LiveReference)
    (w : Walk) : follow g (budget + 1) expanding r w =
      match g.find? r.name with
      | none => w
      | some d =>
        if d.isInline then
          if expanding.contains d.id then w
          else
            (d.body.liveReferences r.forced).foldl
              (fun w r => follow g budget (d.id :: expanding) r w) w
        else if w.walked.contains d.id then w.arrive g r.forced d
        else
          (d.body.liveReferences false).foldl (fun w r => follow g budget expanding r w)
            { w.arrive g r.forced d with walked := d.id :: w.walked } := by
  rw [follow]
  cases g.find? r.name with
  | none => rfl
  | some d =>
    have harrive : (w.arrive g r.forced d).walked = w.walked := Walk.walked_arrive
    simp only [Walk.arrive] at harrive ⊢
    simp only [harrive]

/-- The rules that have been kept are different, and they are relevant. -/
structure Walk.IsSound (g : Grammar) (root : Definition) (w : Walk) : Prop where
  nodup : w.relevant.Nodup
  relevant : ∀ id ∈ w.relevant, ∃ d ∈ g.definitions, d.id = id ∧ g.IsRelevant root d

/-- The expanded body of a definition that shows has a reference. -/
def Appears (g : Grammar) (root : Definition) (r : LiveReference) : Prop :=
  ∃ d, g.Shown root d ∧ ∀ t, g.find? r.name = some t → g.Meets d t r.forced

/-- Arriving at a rule by a reference that appears keeps only what is relevant. -/
theorem Walk.IsSound.arrive (h : w.IsSound g root) (hr : Appears g root r)
    (hfind : g.find? r.name = some t) (hrule : t.isInline = false) :
    (w.arrive g r.forced t).IsSound g root := by
  unfold Walk.arrive
  split
  next hkept =>
    refine ⟨nodup_keep h.nodup, fun id hid => ?_⟩
    rcases mem_relevant_keep.mp hid with hid | rfl
    · exact h.relevant id hid
    · obtain ⟨d, hshown, hmeets⟩ := hr
      simp only [Bool.and_eq_true, Bool.not_eq_true', Bool.or_eq_true] at hkept
      exact ⟨t, mem_of_find? hfind, rfl, .met hshown (hmeets t hfind) hrule hkept.1 hkept.2⟩
  next => exact h

/-- References in the body of a definition that shows appear. -/
theorem appears_of_shown (hd : g.Shown root d) (hr : r ∈ d.body.liveReferences false) :
    Appears g root r := by
  exact ⟨d, hd, fun t hfind => .here (liveRefers_iff.mpr ⟨r, hr, hfind, rfl⟩)⟩

/-- References in the body that takes the place of a reference appear. -/
theorem Appears.expand {r' : LiveReference} (h : Appears g root r)
    (hfind : g.find? r.name = some a) (ha : a.isInline = true)
    (hr' : r' ∈ a.body.liveReferences r.forced) : Appears g root r' := by
  obtain ⟨d, hshown, hmeets⟩ := h
  refine ⟨d, hshown, fun t ht => ?_⟩
  obtain ⟨inner, hrefers, hforced⟩ := liveRefers_of_mem hr' ht
  rw [hforced]
  exact .inside (hmeets a hfind) ha hrefers

/-- Following a reference keeps relevant rules only. -/
theorem follow_sound {budget : Nat} {expanding : List Nat} (hw : w.IsSound g root)
    (hr : Appears g root r) : (follow g budget expanding r w).IsSound g root := by
  induction budget generalizing expanding r w with
  | zero => exact hw
  | succ budget ih =>
    rw [follow_succ]
    split
    · exact hw
    next t hfind =>
      split
      next hinline =>
        split
        · exact hw
        · exact List.foldlRecOn _ _ hw fun _ hw' _ hr' => ih hw' (hr.expand hfind hinline hr')
      next hrule =>
        have hrule : t.isInline = false := by simpa using hrule
        have harrive := hw.arrive hr hfind hrule
        split
        · exact harrive
        · obtain ⟨d, hshown, hmeets⟩ := hr
          have ht : g.Shown root t := .met hshown (hmeets t hfind) hrule
          exact List.foldlRecOn _ _ ⟨harrive.nodup, harrive.relevant⟩
            fun _ hw' _ hr' => ih hw' (appears_of_shown ht hr')

end Relevance

end Peg
