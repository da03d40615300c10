import Peg.Proofs.Analysis.CycleSearch

/-!
# What is told about an inline cycle

The finding about a cycle names the definitions along it, and its notes are about the references
from each of them to the next one.
-/

namespace Peg

open Grammar

/-- The finding is about the cycle that leads from `first` through the definitions of `rest` back to
`first`. -/
structure Finding.IsAboutCycle (g : Grammar) (f : Finding) (first : Definition)
    (rest : List Definition) : Prop where
  kind : f.kind = .inlineCycle
  /-- The cycle starts and ends at an inline definition. -/
  inline : first.isInline = true
  /-- No definition is visited twice on the way. -/
  nodup : (first :: rest).Nodup
  /-- The places of the notes are those of references from each definition to the next one. -/
  trail : g.Trail first (first :: rest) (f.notes.map Note.span) first
  notes : f.notes.map Note.text =
    List.zipWith (fun d t => s!"{d.name} references {t.name}") (first :: rest) (rest ++ [first])
  place : f.span = first.nameSpan
  message : f.message = FindingKind.inlineCycle.detailed
    (" -> ".intercalate ((first :: rest ++ [first]).map Definition.name))

namespace InlineCycle

variable {g : Grammar} {c : InlineCycle} {first : Definition} {rest : List Definition}

/-- The definitions along a cycle are looked up by their numbers. -/
theorem names_eq (hmem : ∀ d ∈ first :: rest, d ∈ g.definitions)
    (hsources : c.steps.map Step.source = (first :: rest).map Definition.id) :
    c.names g = (first :: rest ++ [first]).map Definition.name := by
  have hlookup : ∀ d ∈ first :: rest, ((g.get? d.id).map Definition.name).getD "" = d.name := by
    intro d hd
    rw [get?_id (hmem d hd)]
    rfl
  have haround : c.steps.map (fun step => ((g.get? step.source).map Definition.name).getD "") =
      (first :: rest).map Definition.name := by
    calc c.steps.map (fun step => ((g.get? step.source).map Definition.name).getD "")
      _ = (c.steps.map Step.source).map
            fun id => ((g.get? id).map Definition.name).getD "" := by simp
      _ = (first :: rest).map fun d => ((g.get? d.id).map Definition.name).getD "" := by
            rw [hsources, List.map_map]
            rfl
      _ = (first :: rest).map Definition.name := List.map_congr_left hlookup
  simp only [names, haround]
  simp

/-- The notes about a cycle pair each name with the next one, and carry the places of the steps. -/
theorem notes_finding (hnames : c.names g = (first :: rest ++ [first]).map Definition.name)
    (hlength : c.steps.length = (first :: rest).length) :
    (c.finding g).notes.map Note.text =
        List.zipWith (fun d t => s!"{d.name} references {t.name}") (first :: rest)
          (rest ++ [first]) ∧
      (c.finding g).notes.map Note.span = c.steps.map Step.span := by
  have hpairs : (c.names g).zip (c.names g).tail =
      ((first :: rest).zip (rest ++ [first])).map (Prod.map Definition.name Definition.name) := by
    have hlen : (first :: rest).length = (rest ++ [first]).length := by simp
    have hzip : (first :: rest ++ [first]).zip (rest ++ [first] ++ []) = _ :=
      List.zip_append hlen
    rw [List.append_nil, List.zip_nil_right, List.append_nil] at hzip
    rw [hnames, ← List.map_tail, List.zip_map]
    exact congrArg _ hzip
  have hlen : ((c.names g).zip (c.names g).tail).length = c.steps.length := by
    rw [hpairs, hlength]
    simp
  constructor
  · calc (c.finding g).notes.map Note.text
      _ = (((c.names g).zip (c.names g).tail).zip c.steps).map
            ((fun p => s!"{p.1} references {p.2}") ∘ Prod.fst) := by
            rw [List.map_zip_eq_zipWith]
            exact List.map_zipWith
      _ = ((c.names g).zip (c.names g).tail).map fun p => s!"{p.1} references {p.2}" := by
            rw [← List.map_map, List.map_fst_zip (Nat.le_of_eq hlen)]
      _ = ((first :: rest).zip (rest ++ [first])).map
            fun p => s!"{p.1.name} references {p.2.name}" := by
            rw [hpairs, List.map_map]
            rfl
      _ = List.zipWith (fun d t => s!"{d.name} references {t.name}") (first :: rest)
            (rest ++ [first]) := List.map_zip_eq_zipWith
  · calc (c.finding g).notes.map Note.span
      _ = (((c.names g).zip (c.names g).tail).zip c.steps).map (Step.span ∘ Prod.snd) := by
            rw [List.map_zip_eq_zipWith]
            exact List.map_zipWith
      _ = c.steps.map Step.span := by
            rw [← List.map_map, List.map_snd_zip (Nat.le_of_eq hlen.symm)]

/-- A genuine cycle is reported as what it is. -/
theorem Genuine.finding (h : Genuine g c) :
    ∃ first rest, (c.finding g).IsAboutCycle g first rest := by
  obtain ⟨first, rest, hfirst, hinline, hnodup, htrail, hsources⟩ := h
  have hnames := names_eq (htrail.mem hfirst).2 hsources
  have hlength : c.steps.length = (first :: rest).length := by
    simpa using congrArg List.length hsources
  obtain ⟨htexts, hspans⟩ := notes_finding hnames hlength
  refine ⟨first, rest, rfl, hinline, hnodup, ?_, htexts, ?_, ?_⟩
  · rw [hspans]
    exact htrail
  · cases hsteps : c.steps with
    | nil => simp [hsteps] at hlength
    | cons step steps =>
      have hsource : step.source = first.id := by
        simp only [hsteps, List.map_cons, List.cons.injEq] at hsources
        exact hsources.1
      simp [InlineCycle.finding, hsteps, hsource, get?_id hfirst]
  · simp only [InlineCycle.finding, hnames]

end InlineCycle

end Peg
