import Mathlib.Data.List.Nodup
import Peg.Proofs.Grammar.NothingLost
import Peg.Proofs.Grammar.References

/-!
# Names tell definitions apart

Definitions make a grammar just if their names are different up to letter case. A definition is then
found by its number and by its exact name. Otherwise the first definition is reported whose name was
taken before, with the one that took it.
-/

namespace Peg

namespace Grammar

section Clashes

variable {α β γ : Type} [BEq α] {seen l : List (α × β)}

/-- Which entries clash depends on the keys alone. -/
theorem clash?_map (f : β → γ) (seen l : List (α × β)) :
    clash? (seen.map (Prod.map id f)) (l.map (Prod.map id f)) =
      (clash? seen l).map (Prod.map f f) := by
  have hlookup (key : α) (seen : List (α × β)) :
      (seen.map (Prod.map id f)).lookup key = (seen.lookup key).map f := by
    induction seen with
    | nil => rfl
    | cons entry seen ih =>
      rw [List.map_cons, Prod.map, List.lookup_cons, List.lookup_cons, ih]
      dsimp only [id]
      split <;> rfl
  induction l generalizing seen with
  | nil => rfl
  | cons entry rest ih =>
    obtain ⟨key, value⟩ := entry
    have hrest := ih ((key, value) :: seen)
    rw [List.map_cons, Prod.map] at hrest
    rw [List.map_cons, Prod.map, clash?, clash?, id, hlookup]
    cases seen.lookup key with
    | none => exact hrest
    | some first => rfl

variable [LawfulBEq α]

/-- Among pairs with different keys, a key has just the value of its pair. -/
theorem lookup_eq_some_iff_of_nodup (h : (seen.map Prod.fst).Nodup) {key : α} {value : β} :
    seen.lookup key = some value ↔ (key, value) ∈ seen := by
  induction seen with
  | nil => simp
  | cons entry seen ih =>
    obtain ⟨other, found⟩ := entry
    rw [List.map_cons, List.nodup_cons] at h
    rw [List.lookup_cons, List.mem_cons]
    cases hkey : key == other with
    | false =>
      have hne : key ≠ other := by simpa using hkey
      simp [ih h.2, hne]
    | true =>
      obtain rfl := eq_of_beq hkey
      have hnew : (key, value) ∉ seen := fun hmem => h.1 (List.mem_map.mpr ⟨_, hmem, rfl⟩)
      simp [hnew, eq_comm]

/-- A clash is found at the first key that occurred before. -/
theorem clash?_eq_some_iff (hseen : (seen.map Prod.fst).Nodup) {first second : β} :
    clash? seen l = some (first, second) ↔
      ∃ before key after, l = before ++ (key, second) :: after ∧
        ((seen.reverse ++ before).map Prod.fst).Nodup ∧ (key, first) ∈ seen.reverse ++ before := by
  induction l generalizing seen with
  | nil => simp [clash?]
  | cons entry rest ih =>
    obtain ⟨key, value⟩ := entry
    rw [clash?]
    cases hkey : seen.lookup key with
    | some found =>
      have hmem := (lookup_eq_some_iff_of_nodup hseen).mp hkey
      constructor
      · intro h
        cases h
        exact ⟨[], key, rest, rfl, by simpa using hseen, by simpa using hmem⟩
      · rintro ⟨before, other, after, hsplit, hnodup, hfirst⟩
        cases before with
        | nil =>
          cases hsplit
          rw [List.append_nil, List.mem_reverse, ← lookup_eq_some_iff_of_nodup hseen,
            hkey] at hfirst
          cases hfirst
          rfl
        | cons _ before =>
          -- The key occurs among the entries seen and right behind them.
          cases hsplit
          rw [List.map_append, List.nodup_append] at hnodup
          exact absurd rfl (hnodup.2.2 key (List.mem_map.mpr ⟨_, List.mem_reverse.mpr hmem, rfl⟩)
            key List.mem_cons_self)
    | none =>
      have hnew : key ∉ seen.map Prod.fst := by
        intro hmem
        obtain ⟨entry, hentry, rfl⟩ := List.mem_map.mp hmem
        rw [(lookup_eq_some_iff_of_nodup hseen).mpr hentry] at hkey
        cases hkey
      have hkeys : (((key, value) :: seen).map Prod.fst).Nodup :=
        List.nodup_cons.mpr ⟨hnew, hseen⟩
      simp only [ih hkeys, List.reverse_cons, List.append_assoc, List.singleton_append]
      constructor
      · rintro ⟨before, other, after, rfl, hnodup, hfirst⟩
        exact ⟨(key, value) :: before, other, after, rfl, hnodup, hfirst⟩
      · rintro ⟨before, other, after, hsplit, hnodup, hfirst⟩
        cases before with
        | nil =>
          cases hsplit
          rw [List.append_nil, List.mem_reverse] at hfirst
          exact absurd (List.mem_map.mpr ⟨_, hfirst, rfl⟩) hnew
        | cons _ before =>
          cases hsplit
          exact ⟨before, other, after, rfl, hnodup, hfirst⟩

end Clashes

/-- No two definitions in front of `second` have the same name up to letter case, and `first` is the
only one of them that has the name of `second`. -/
def Clash (definitions : List Definition) (first second : Definition) : Prop :=
  ∃ before after, definitions = before ++ second :: after ∧
    (before.map Definition.foldedName).Nodup ∧ first ∈ before ∧
    first.foldedName = second.foldedName ∧
    ∀ d ∈ before, d.foldedName = second.foldedName → d = first

variable {definitions : List Definition} {options : List Attribute} {first second : Definition}

/-- Names are paired with definitions one by one. -/
theorem named_append (front back : List Definition) :
    named (front ++ back) = named front ++ named back :=
  List.map_append

/-- A definition is paired with its own folded name. -/
theorem mem_named {entry : String × Definition} :
    entry ∈ named definitions ↔ entry.2 ∈ definitions ∧ entry.1 = entry.2.foldedName := by
  obtain ⟨key, d⟩ := entry
  simp [named, eq_comm]

/-- The clash that is found is the first of all. -/
theorem clash?_named_iff :
    clash? [] (named definitions) = some (first, second) ↔ Clash definitions first second := by
  have hnone : (([] : List (String × Definition)).map Prod.fst).Nodup := List.nodup_nil
  rw [clash?_eq_some_iff hnone]
  simp only [List.reverse_nil, List.nil_append]
  constructor
  · rintro ⟨before, key, after, hsplit, hnodup, hfirst⟩
    obtain ⟨front, back, rfl, rfl, hback⟩ := List.map_eq_append_iff.mp hsplit
    obtain ⟨d, rest, rfl, hd, rfl⟩ := List.map_eq_cons_iff.mp hback
    cases hd
    obtain ⟨hmem, hname⟩ := mem_named.mp hfirst
    replace hnodup : (front.map Definition.foldedName).Nodup := map_fst_named front ▸ hnodup
    refine ⟨front, rest, rfl, hnodup, hmem, hname.symm, fun d hd hfolded => ?_⟩
    exact List.inj_on_of_nodup_map hnodup hd hmem (hfolded.trans hname)
  · rintro ⟨before, after, rfl, hnodup, hmem, hname, _⟩
    refine ⟨named before, second.foldedName, named after, ?_, ?_, ?_⟩
    · rw [named_append]
      rfl
    · rwa [map_fst_named]
    · exact mem_named.mpr ⟨hmem, hname.symm⟩

/-- Numbering does not change what is reported of a clash. -/
theorem clash?_named_number (definitions : List Definition) :
    (clash? [] (named (number definitions))).map
        (Prod.map (fun d => (d.name, d.nameSpan)) fun d => (d.name, d.nameSpan)) =
      (clash? [] (named definitions)).map
        (Prod.map (fun d => (d.name, d.nameSpan)) fun d => (d.name, d.nameSpan)) := by
  have hnamed : (named (number definitions)).map (Prod.map id fun d => (d.name, d.nameSpan)) =
      (named definitions).map (Prod.map id fun d => (d.name, d.nameSpan)) := by
    rw [named, named, List.map_map, List.map_map]
    exact map_number (fun _ _ => rfl) definitions
  rw [← clash?_map, ← clash?_map, hnamed]

/-- Definitions are refused just because of their first clash, with the places of both names. -/
theorem ofDefinitions_eq_error_iff {cause : GrammarError} :
    ofDefinitions definitions options = .error cause ↔
      ∃ first second, Clash definitions first second ∧
        cause = .duplicateName first.name first.nameSpan second.nameSpan := by
  have hreport := clash?_named_number definitions
  simp only [← clash?_named_iff]
  unfold ofDefinitions
  dsimp only
  split
  next first second hclash =>
    rw [hclash] at hreport
    obtain ⟨⟨first', second'⟩, hclash', hlabels⟩ := Option.map_eq_some_iff.mp hreport.symm
    simp only [Prod.map, Prod.mk.injEq] at hlabels
    obtain ⟨⟨hname, hspan⟩, _, hspan'⟩ := hlabels
    rw [hclash', Except.error.injEq, ← hname, ← hspan, ← hspan']
    constructor
    · rintro rfl
      exact ⟨first', second', rfl, rfl⟩
    · rintro ⟨_, _, heq, rfl⟩
      cases heq
      rfl
  next hnone =>
    rw [hnone] at hreport
    rw [Option.map_eq_none_iff.mp hreport.symm]
    simp

/-- Definitions make a grammar just if their folded names are different. -/
theorem exists_ofDefinitions_eq_ok_iff :
    (∃ g, ofDefinitions definitions options = .ok g) ↔
      (definitions.map Definition.foldedName).Nodup := by
  constructor
  · rintro ⟨g, hg⟩
    have hdefinitions := (ofDefinitions_eq_ok hg).1
    rw [← map_number (fun _ _ => rfl) definitions, ← hdefinitions]
    exact g.distinct
  · intro hnodup
    cases hresult : ofDefinitions definitions options with
    | ok g => exact ⟨g, rfl⟩
    | error cause =>
      obtain ⟨first, second, ⟨before, after, rfl, _, hmem, hname, _⟩, _⟩ :=
        ofDefinitions_eq_error_iff.mp hresult
      rw [List.map_append, List.nodup_append] at hnodup
      exact absurd hname (hnodup.2.2 _ (List.mem_map.mpr ⟨first, hmem, rfl⟩) _
        (List.mem_map.mpr ⟨second, List.mem_cons_self, rfl⟩))

/-- The definitions of the grammar are the given ones in their order, and each is found by its
place and by its name. -/
structure Resolves (g : Grammar) (definitions : List Definition) : Prop where
  placed : ∀ id, g.get? id = definitions[id]?.map fun d => { d with id := id }
  byId : ∀ id d, g.get? id = some d ↔ d ∈ g.definitions ∧ d.id = id
  byName : ∀ name d, g.find? name = some d ↔ d ∈ g.definitions ∧ d.name = name
  named : ∀ name, (∃ d, g.find? name = some d) ↔ ∃ d ∈ definitions, d.name = name

/-- A number leads to the definition that has it. -/
theorem get?_eq_some_iff {g : Grammar} {id : Nat} {d : Definition} :
    g.get? id = some d ↔ d ∈ g.definitions ∧ d.id = id := by
  refine ⟨fun h => ⟨mem_of_get? h, id_of_get? h⟩, ?_⟩
  rintro ⟨hd, rfl⟩
  exact get?_id hd

/-- A name leads to the definition that has it. -/
theorem find?_eq_some_iff {g : Grammar} {name : String} {d : Definition} :
    g.find? name = some d ↔ d ∈ g.definitions ∧ d.name = name := by
  refine ⟨fun h => ⟨mem_of_find? h, name_of_find? h⟩, ?_⟩
  rintro ⟨hd, rfl⟩
  exact find?_name hd

/-- In a grammar made of definitions, names and numbers lead back to these. -/
theorem resolves_of_ofDefinitions {g : Grammar} (h : ofDefinitions definitions options = .ok g) :
    g.Resolves definitions where
  placed id := by
    rw [get?, (ofDefinitions_eq_ok h).1]
    simp [number]
  byId _ _ := get?_eq_some_iff
  byName _ _ := find?_eq_some_iff
  named name := by
    have hnames : g.definitions.map Definition.name = definitions.map Definition.name := by
      rw [(ofDefinitions_eq_ok h).1]
      exact map_number (fun _ _ => rfl) definitions
    simp only [find?_eq_some_iff, ← List.mem_map, hnames]

/-- Definitions make a grammar just if no two names are equal up to letter case. In a grammar the
definitions are numbered in their order, numbers and exact names lead to definitions and back, and
an option that is given again keeps its place and takes the new value. Otherwise the first
definition is reported whose name was taken before, whatever follows it, with the name and the place
of the only one before it that has this name. -/
theorem ofDefinitions_resolves (definitions : List Definition) (options : List Attribute) :
    ((∃ g, ofDefinitions definitions options = .ok g) ↔
      (definitions.map Definition.foldedName).Nodup) ∧
    (∀ g, ofDefinitions definitions options = .ok g →
      g.Resolves definitions ∧ g.options.Collect options) ∧
    ∀ cause, ofDefinitions definitions options = .error cause ↔
      ∃ first second, Clash definitions first second ∧
        cause = .duplicateName first.name first.nameSpan second.nameSpan := by
  refine ⟨exists_ofDefinitions_eq_ok_iff, fun g hg => ?_, fun cause => ofDefinitions_eq_error_iff⟩
  refine ⟨resolves_of_ofDefinitions hg, ?_⟩
  rw [(ofDefinitions_eq_ok hg).2]
  exact Attributes.collect_ofList options

end Grammar

end Peg
