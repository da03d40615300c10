import Peg.Analysis.InlineCycle
import Peg.Proofs.Grammar.References

/-!
# What the search for inline cycles reports

The search follows references along a path on which no definition occurs twice. A reference back to
the path closes a walk from the definition that it names to that definition, and only such walks are
reported, each at an inline definition.
-/

namespace Peg

open Grammar

namespace InlineCycle

variable {g : Grammar} {path : List Step} {d t : Definition}

/-- A definition is not on the path if no part of the path starts at it. -/
theorem since?_eq_none {id : Nat} : since? id path = none ↔ id ∉ path.map Step.source := by
  induction path with
  | nil => simp [since?]
  | cons step path ih =>
    by_cases hid : step.source = id
    · simp [since?, hid]
    · simp [since?, hid, ih, Ne.symm hid]

/-- What is cut off a path is its latest part. -/
theorem reverse_prefix_of_since? {id : Nat} {steps : List Step}
    (h : since? id path = some steps) : steps.reverse <+: path := by
  induction path generalizing steps with
  | nil => cases h
  | cons step path ih =>
    simp only [since?] at h
    split at h
    · cases h
      exact ⟨path, rfl⟩
    · obtain ⟨earlier, hearlier, rfl⟩ := Option.map_eq_some_iff.mp h
      rw [List.reverse_append]
      exact List.prefix_cons_inj step |>.mpr (ih hearlier)

/-- The steps of a path, the latest first, are references that lead to a definition. -/
inductive Way (g : Grammar) : List Step → Definition → Prop where
  | start {d : Definition} : d ∈ g.definitions → Way g [] d
  | step {path : List Step} {d t : Definition} {span : Span} : Way g path d →
      g.Refers d t span → Way g (⟨d.id, span⟩ :: path) t

/-- The end of a path belongs to the grammar. -/
theorem Way.mem (h : Way g path d) : d ∈ g.definitions := by
  cases h with
  | start hd => exact hd
  | step _ hrefers => exact hrefers.mem

/-- The numbers on a path are those of definitions. -/
theorem Way.source_lt (h : Way g path d) : ∀ id ∈ path.map Step.source, id < g.size := by
  induction h with
  | start => simp
  | step hway _ ih =>
    intro id hid
    rcases List.mem_cons.mp hid with rfl | hid
    · exact id_lt_size hway.mem
    · exact ih id hid

/-- A path that has been cut off at a definition leads from there to the same end. -/
theorem Way.trail {id : Nat} {steps : List Step} (h : Way g path t)
    (hsteps : since? id path = some steps) :
    ∃ first rest, first.id = id ∧ first ∈ g.definitions ∧
      g.Trail first (first :: rest) (steps.map Step.span) t ∧
      steps.map Step.source = (first :: rest).map Definition.id := by
  induction h generalizing steps with
  | start => cases hsteps
  | @step path d t span hway hrefers ih =>
    simp only [since?] at hsteps
    split at hsteps
    next hid =>
      cases hsteps
      exact ⟨d, [], hid, hway.mem, .step .start hrefers, rfl⟩
    · obtain ⟨earlier, hearlier, rfl⟩ := Option.map_eq_some_iff.mp hsteps
      obtain ⟨first, rest, hid, hfirst, htrail, hsources⟩ := ih hearlier
      refine ⟨first, rest ++ [d], hid, hfirst, ?_, ?_⟩
      · simpa using htrail.step hrefers
      · simp [hsources]

/-- A path of the search: no definition occurs on it twice, and none leads back to it. -/
structure Path (g : Grammar) (path : List Step) (d : Definition) : Prop where
  way : Way g path d
  nodup : (d.id :: path.map Step.source).Nodup

/-- A path without steps is where it starts. -/
theorem Path.start (hd : d ∈ g.definitions) : Path g [] d :=
  ⟨.start hd, by simp⟩

/-- A path goes on to a definition that is not on it. -/
theorem Path.step {span : Span} (h : Path g path d) (hrefers : g.Refers d t span)
    (hnew : since? t.id (⟨d.id, span⟩ :: path) = none) : Path g (⟨d.id, span⟩ :: path) t :=
  ⟨h.way.step hrefers, List.nodup_cons.mpr ⟨since?_eq_none.mp hnew, h.nodup⟩⟩

/-- A path has fewer steps than there are definitions. -/
theorem Path.length_lt (h : Path g path d) : path.length < g.size := by
  have hids : ∀ id ∈ d.id :: path.map Step.source, id < g.size := by
    intro id hid
    rcases List.mem_cons.mp hid with rfl | hid
    · exact id_lt_size h.way.mem
    · exact h.way.source_lt id hid
  have hlength := length_le_of_nodup h.nodup hids
  simp only [List.length_cons, List.length_map] at hlength
  omega

/-- A closed walk along references that starts and ends at an inline definition and visits no
definition twice in between. -/
def Genuine (g : Grammar) (c : InlineCycle) : Prop :=
  ∃ first rest, first ∈ g.definitions ∧ first.isInline = true ∧ (first :: rest).Nodup ∧
    g.Trail first (first :: rest) (c.steps.map Step.span) first ∧
    c.steps.map Step.source = (first :: rest).map Definition.id

/-- A reference back to the path closes a genuine cycle if it is to an inline definition. -/
theorem Path.genuine {span : Span} {steps : List Step} (h : Path g path d)
    (hrefers : g.Refers d t span) (hsteps : since? t.id (⟨d.id, span⟩ :: path) = some steps)
    (hinline : t.isInline = true) : Genuine g ⟨steps⟩ := by
  obtain ⟨first, rest, hid, hfirst, htrail, hsources⟩ := (h.way.step hrefers).trail hsteps
  obtain rfl := eq_of_id_eq hfirst hrefers.mem hid
  refine ⟨first, rest, hfirst, hinline, ?_, htrail, hsources⟩
  have hsub : (steps.map Step.source).reverse.Sublist (d.id :: path.map Step.source) := by
    rw [← List.map_reverse]
    exact (reverse_prefix_of_since? hsteps).sublist.map Step.source
  have hnodup : (steps.map Step.source).Nodup := (List.reverse_perm _).nodup (h.nodup.sublist hsub)
  rw [hsources] at hnodup
  exact List.Pairwise.of_map Definition.id (fun _ _ hne heq => hne (heq ▸ rfl)) hnodup

/-- What the search does at one reference of a definition that it has entered. -/
def visit (g : Grammar) (budget : Nat) (path : List Step) (d : Definition) (s : Search)
    (r : Reference) : Search :=
  match g.find? r.name with
  | none => s
  | some target =>
    match since? target.id (⟨d.id, r.span⟩ :: path) with
    | none => follow g budget (⟨d.id, r.span⟩ :: path) target s
    | some steps => if target.isInline then { s with cycles := s.cycles ++ [⟨steps⟩] } else s

/-- A definition is entered once, and then its references are visited in order. -/
theorem follow_succ (g : Grammar) (budget : Nat) (path : List Step) (d : Definition)
    (s : Search) :
    follow g (budget + 1) path d s =
      if s.entered.contains d.id then s
      else d.body.references.foldl (visit g budget path d)
        { s with entered := d.id :: s.entered } := rfl

/-- What every genuine cycle and the search behind a reference keep, a visit keeps. -/
theorem visit_keeps {P : Search → Prop}
    (hclose : ∀ s c, Genuine g c → P s → P { s with cycles := s.cycles ++ [c] })
    {budget : Nat} {s : Search} {r : Reference} (hpath : Path g path d)
    (hr : r ∈ d.body.references)
    (hfollow : ∀ {path t s}, Path g path t → P s → P (follow g budget path t s)) (hs : P s) :
    P (visit g budget path d s r) := by
  unfold visit
  split
  · exact hs
  next t hfind =>
    have hrefers : g.Refers d t r.span := ⟨r, hr, rfl, hfind⟩
    split
    next hnew => exact hfollow (hpath.step hrefers hnew) hs
    next steps hsteps =>
      split
      next hinline => exact hclose s _ (hpath.genuine hrefers hsteps hinline) hs
      · exact hs

/-- What every entered definition and every genuine cycle keeps, the search keeps. -/
theorem follow_keeps {P : Search → Prop}
    (henter : ∀ s id, P s → P { s with entered := id :: s.entered })
    (hclose : ∀ s c, Genuine g c → P s → P { s with cycles := s.cycles ++ [c] })
    {budget : Nat} {s : Search} (hpath : Path g path d) (hs : P s) :
    P (follow g budget path d s) := by
  induction budget generalizing path d s with
  | zero => exact hs
  | succ budget ih =>
    rw [follow_succ]
    split
    · exact hs
    · exact List.foldlRecOn _ _ (henter s d.id hs) fun s hs r hr =>
        visit_keeps hclose hpath hr ih hs

/-- Cycles that have been found stay found. -/
theorem cycles_follow_eq_nil {budget : Nat} {s : Search} (hpath : Path g path d)
    (h : (follow g budget path d s).cycles = []) : s.cycles = [] := by
  have hkept : s.cycles ≠ [] → (follow g budget path d s).cycles ≠ [] :=
    follow_keeps (P := fun s => s.cycles ≠ []) (fun _ _ hs => hs) (fun s c _ _ => by simp) hpath
  exact Decidable.byContradiction fun hs => hkept hs h

/-- If visits have found no cycle, there was none before. -/
theorem cycles_visits_eq_nil {budget : Nat} {s : Search} {refs : List Reference}
    (hpath : Path g path d) (hrefs : refs ⊆ d.body.references)
    (h : (refs.foldl (visit g budget path d) s).cycles = []) : s.cycles = [] := by
  have hkept : s.cycles ≠ [] → (refs.foldl (visit g budget path d) s).cycles ≠ [] := by
    intro hs
    refine List.foldlRecOn (motive := fun s : Search => s.cycles ≠ []) refs _ hs
      fun s hs r hr => ?_
    exact visit_keeps (P := fun s => s.cycles ≠ []) (fun s c _ _ => by simp) hpath (hrefs hr)
      (fun hpath hs hnil => hs (cycles_follow_eq_nil hpath hnil)) hs
  exact Decidable.byContradiction fun hs => hkept hs h

/-- If searches have found no cycle, there was none before. -/
theorem cycles_searches_eq_nil {budget : Nat} {s : Search} {starts : List Definition}
    (hstarts : starts ⊆ g.definitions)
    (h : (starts.foldl (fun s d => follow g budget [] d s) s).cycles = []) : s.cycles = [] := by
  have hkept : s.cycles ≠ [] →
      (starts.foldl (fun s d => follow g budget [] d s) s).cycles ≠ [] := by
    intro hs
    refine List.foldlRecOn (motive := fun s : Search => s.cycles ≠ []) starts _ hs
      fun s hs d hd => ?_
    exact fun hnil => hs (cycles_follow_eq_nil (.start (hstarts hd)) hnil)
  exact Decidable.byContradiction fun hs => hkept hs h

/-- Everything that the search reports is a genuine cycle. -/
theorem genuine_of_mem {c : InlineCycle} (hc : c ∈ g.inlineCycles) : Genuine g c := by
  let P : Search → Prop := fun s => ∀ c ∈ s.cycles, Genuine g c
  have hclose : ∀ s c, Genuine g c → P s → P { s with cycles := s.cycles ++ [c] } := by
    intro s c hc hs c' hc'
    rcases List.mem_append.mp hc' with hc' | hc'
    · exact hs c' hc'
    · rwa [List.mem_singleton.mp hc']
  have hall : P (g.definitions.foldl (fun s d => follow g (g.size + 1) [] d s) ⟨[], []⟩) :=
    List.foldlRecOn (motive := P) _ _ (fun c hc => absurd hc List.not_mem_nil)
      fun s hs d hd => follow_keeps (fun _ _ hs => hs) hclose (.start hd) hs
  exact hall c hc

end InlineCycle

end Peg
