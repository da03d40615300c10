import Mathlib.Order.Bounds.Basic
import Mathlib.Tactic.FinCases
import Peg.Proofs.Grammar.KeptParts
import Peg.Proofs.Grammar.Rearranged

/-!
# Variable text as a least fixed point

The analysis for variable text looks at a part of an element, at the definition that a name means,
and at parts of its body in turn, and passes over the definitions that are under way. What it finds
on the way depends on these, but its answer does not: it is whether some kept part leaves the parser
a choice. This is the least answer that agrees with itself across references.
-/

namespace Peg

/-- No match of the element varies, whatever its references mean. -/
def Element.isFixed : Element → Bool
  | .text _ _ | .number _ _ | .boolean _ _ | .not _ _ | .marked _ .drop _ => true
  | .regex _ _ _ | .reference _ _ | .sequence _ _ _ | .choice _ _ _ | .optional _ _
  | .zeroOrMore _ _ | .oneOrMore _ _ | .marked _ _ _ => false

namespace Grammar

variable {g : Grammar} {entered : List Nat} {e part : Element} {answer : Bool}

/-- A search for variable text in an element may end with this answer, while the definitions with
numbers in `entered` are under way. The operands of a sequence are looked at in any order, and the
second one only if the first one does not vary. -/
inductive Answers (g : Grammar) : List Nat → Element → Bool → Prop where
  | fixed {entered : List Nat} {e : Element} : e.isFixed = true → g.Answers entered e false
  | branches {entered : List Nat} {e : Element} : e.branches = true → g.Answers entered e true
  | left {entered : List Nat} {s : Span} {left right : Element} : g.Answers entered left true →
      g.Answers entered (.sequence s left right) true
  | right {entered : List Nat} {s : Span} {left right : Element} : g.Answers entered right true →
      g.Answers entered (.sequence s left right) true
  | neither {entered : List Nat} {s : Span} {left right : Element} :
      g.Answers entered left false → g.Answers entered right false →
      g.Answers entered (.sequence s left right) false
  | marked {entered : List Nat} {s : Span} {marker : Marker} {body : Element} {answer : Bool} :
      marker ≠ .drop → g.Answers entered body answer →
      g.Answers entered (.marked s marker body) answer
  | undefined {entered : List Nat} {s : Span} {name : String} : g.find? name = none →
      g.Answers entered (.reference s name) false
  | underway {entered : List Nat} {s : Span} {name : String} {d : Definition} :
      g.find? name = some d → d.id ∈ entered → g.Answers entered (.reference s name) false
  | enter {entered : List Nat} {s : Span} {name : String} {d : Definition} {answer : Bool} :
      g.find? name = some d → d.id ∉ entered → g.Answers (d.id :: entered) d.body answer →
      g.Answers entered (.reference s name) answer

/-- In search of variable text in an element, while some definitions are under way, another element
is looked at. -/
inductive Consults (g : Grammar) : List Nat × Element → List Nat × Element → Prop where
  | left {entered : List Nat} {s : Span} {left right : Element} :
      g.Consults (entered, .sequence s left right) (entered, left)
  | right {entered : List Nat} {s : Span} {left right : Element} :
      g.Consults (entered, .sequence s left right) (entered, right)
  | marked {entered : List Nat} {s : Span} {marker : Marker} {body : Element} : marker ≠ .drop →
      g.Consults (entered, .marked s marker body) (entered, body)
  | enter {entered : List Nat} {s : Span} {name : String} {d : Definition} :
      g.find? name = some d → d.id ∉ entered →
      g.Consults (entered, .reference s name) (d.id :: entered, d.body)

/-- The definitions that are not under way. -/
def notEntered (g : Grammar) (entered : List Nat) : List Definition :=
  g.definitions.filter fun d => d.id ∉ entered

/-- A definition that is entered is one that has not been under way. -/
theorem length_notEntered_lt {d : Definition} (hd : d ∈ g.definitions) (hnew : d.id ∉ entered) :
    (g.notEntered (d.id :: entered)).length < (g.notEntered entered).length := by
  have hmem : d ∈ g.notEntered entered := List.mem_filter.mpr ⟨hd, by simpa using hnew⟩
  have hrest : g.notEntered (d.id :: entered) =
      (g.notEntered entered).filter fun t => t.id ≠ d.id := by
    rw [notEntered, notEntered, List.filter_filter]
    refine List.filter_congr fun t _ => ?_
    simp [List.mem_cons, not_or]
  rw [hrest]
  refine List.length_filter_lt_length_iff_exists.mpr ⟨d, hmem, ?_⟩
  simp

/-- Every search comes to an end: either a further definition is entered, or an element is left for
one of its parts. -/
theorem wellFounded_consults (g : Grammar) :
    WellFounded fun inner outer : List Nat × Element => g.Consults outer inner := by
  refine Subrelation.wf (r := InvImage (Prod.Lex (· < ·) (· < ·))
    fun v : List Nat × Element => ((g.notEntered v.1).length, sizeOf v.2))
    (fun {inner outer} h => ?_) (InvImage.wf _ (Prod.lex sizeOfWFRel sizeOfWFRel).wf)
  cases h with
  | enter hfind hnew => exact Prod.Lex.left _ _ (length_notEntered_lt (mem_of_find? hfind) hnew)
  | _ => exact Prod.Lex.right _ (by simp +arith)

/-- A way that avoids more definitions avoids fewer. -/
theorem Within.of_cons {through : Marker → Prop} {id : Nat}
    (h : g.Within through (id :: entered) part e) : g.Within through entered part e := by
  induction h with
  | refl => exact .refl
  | left _ ih => exact .left ih
  | right _ ih => exact .right ih
  | marked hthrough _ ih => exact .marked hthrough ih
  | reference hfind hnew _ ih =>
    exact .reference hfind (fun hmem => hnew (List.mem_cons_of_mem _ hmem)) ih

/-- Where the answer is yes, a kept part branches that is reached without the definitions under
way. -/
theorem Answers.exists_kept (h : g.Answers entered e answer) (hyes : answer = true) :
    ∃ part, part.branches = true ∧ g.Within (· ≠ .drop) entered part e := by
  induction h with
  | fixed | neither | undefined | underway => cases hyes
  | branches hbranches => exact ⟨_, hbranches, .refl⟩
  | left _ ih =>
    obtain ⟨part, hbranches, hwithin⟩ := ih rfl
    exact ⟨part, hbranches, .left hwithin⟩
  | right _ ih =>
    obtain ⟨part, hbranches, hwithin⟩ := ih rfl
    exact ⟨part, hbranches, .right hwithin⟩
  | marked hmarker _ ih =>
    obtain ⟨part, hbranches, hwithin⟩ := ih hyes
    exact ⟨part, hbranches, .marked hmarker hwithin⟩
  | @enter entered s name d answer hfind hnew _ ih =>
    obtain ⟨part, hbranches, hwithin⟩ := ih hyes
    exact ⟨part, hbranches, .reference hfind hnew hwithin.of_cons⟩

/-- Where the answer is no, no kept part branches that is reached without the definitions under
way. -/
theorem Answers.branches_eq_false (h : g.Answers entered e answer) (hno : answer = false)
    (hwithin : g.Within (· ≠ .drop) entered part e) : part.branches = false := by
  induction h with
  | branches | left | right => cases hno
  | @fixed entered e hfixed =>
    cases hwithin with
    | refl => cases part <;> first | rfl | cases hfixed
    | @marked s marker body hmarker =>
      cases marker with
      | drop => exact absurd rfl hmarker
      | _ => cases hfixed
    | _ => cases hfixed
  | neither _ _ ihl ihr =>
    cases hwithin with
    | refl => rfl
    | left hleft => exact ihl rfl hleft
    | right hright => exact ihr rfl hright
  | marked _ _ ih =>
    cases hwithin with
    | refl => rfl
    | marked _ hbody => exact ih hno hbody
  | undefined hfind =>
    cases hwithin with
    | refl => rfl
    | reference hfind' =>
      rw [hfind] at hfind'
      cases hfind'
  | underway hfind hentered =>
    cases hwithin with
    | refl => rfl
    | reference hfind' hnew =>
      rw [hfind] at hfind'
      cases hfind'
      exact absurd hentered hnew
  | enter hfind _ _ ih =>
    cases hwithin with
    | refl => rfl
    | reference hfind' _ hbody =>
      rw [hfind] at hfind'
      cases hfind'
      -- What is reached by way of the definition itself is reached from its last visit as well.
      exact ih hno ((hbody.avoid (mem_of_find? hfind)).elim id id)

/-- While the same definitions are under way, every search ends with the same answer. -/
theorem Answers.unique {answer' : Bool} (h : g.Answers entered e answer)
    (h' : g.Answers entered e answer') : answer = answer' := by
  have hclash : g.Answers entered e true → g.Answers entered e false → False := by
    intro hyes hno
    obtain ⟨part, hbranches, hwithin⟩ := hyes.exists_kept rfl
    rw [hno.branches_eq_false rfl hwithin] at hbranches
    cases hbranches
  cases answer <;> cases answer'
  · rfl
  · exact (hclash h' h).elim
  · exact (hclash h h').elim
  · rfl

/-- The analysis is one of the searches, as long as its budget suffices for the definitions that are
not under way. -/
theorem answers_varies {budget : Nat} (hnodup : entered.Nodup) (hids : ∀ id ∈ entered, id < g.size)
    (hbudget : g.size < budget + entered.length) (e : Element) :
    g.Answers entered e (e.varies (g.nameVaries budget entered)) := by
  induction budget generalizing entered e with
  | zero =>
    have hlength := length_le_of_nodup hnodup hids
    omega
  | succ budget ih =>
    induction e with
    | text | number | boolean | not => exact .fixed rfl
    | regex | choice | optional | zeroOrMore | oneOrMore => exact .branches rfl
    | sequence s left right ihl ihr =>
      cases hl : left.varies (g.nameVaries (budget + 1) entered) with
      | true =>
        simp only [Element.varies, hl, Bool.true_or]
        exact .left (hl ▸ ihl)
      | false =>
        cases hr : right.varies (g.nameVaries (budget + 1) entered) with
        | true =>
          simp only [Element.varies, hr, Bool.or_true]
          exact .right (hr ▸ ihr)
        | false =>
          simp only [Element.varies, hl, hr, Bool.or_false]
          exact .neither (hl ▸ ihl) (hr ▸ ihr)
    | marked s marker body ihb =>
      cases marker with
      | drop => exact .fixed rfl
      | _ => exact .marked (by simp) ihb
    | reference s name =>
      simp only [Element.varies, nameVaries]
      cases hfind : g.find? name with
      | none => exact .undefined hfind
      | some d =>
        by_cases hentered : d.id ∈ entered
        · simp only [List.contains_iff_mem.mpr hentered, if_true]
          exact .underway hfind hentered
        · have hd := mem_of_find? hfind
          have hids' : ∀ id ∈ d.id :: entered, id < g.size := by
            intro id hid
            rcases List.mem_cons.mp hid with rfl | hid
            · exact id_lt_size hd
            · exact hids id hid
          have hbody := ih (List.nodup_cons.mpr ⟨hentered, hnodup⟩) hids'
            (by simp only [List.length_cons]; omega) d.body
          have hcontains : entered.contains d.id = false := by simpa using hentered
          simp only [hcontains]
          exact .enter hfind hentered hbody

/-- Every search in an element ends with the answer of the analysis. -/
theorem answers_iff (g : Grammar) (e : Element) (answer : Bool) :
    g.Answers [] e answer ↔ answer = g.matchesVariableText e := by
  have hself : g.Answers [] e (g.matchesVariableText e) :=
    answers_varies .nil (by simp) (by simp) e
  constructor
  · exact fun h => h.unique hself
  · rintro rfl
    exact hself

/-- The analysis says that matches vary just if some kept part branches. -/
theorem matchesVariableText_iff (g : Grammar) (e : Element) :
    g.matchesVariableText e = true ↔ ∃ part, part.branches = true ∧ g.Keeps e part := by
  have hself := (answers_iff g e _).mpr rfl
  constructor
  · exact hself.exists_kept
  · rintro ⟨part, hbranches, hkeeps⟩
    by_contra hno
    rw [hself.branches_eq_false (Bool.not_eq_true _ ▸ hno) hkeeps] at hbranches
    cases hbranches

/-- The answer for an element that follows from the answers for the bodies of definitions. -/
def variation (g : Grammar) (answer : Element → Bool) (e : Element) : Bool :=
  e.varies fun name => ((g.find? name).map fun d => answer d.body).getD false

/-- An answer that agrees with itself across references is yes wherever a kept part branches. -/
theorem variation_of_keeps {answer : Element → Bool} (hfixed : g.variation answer = answer)
    (hbranches : part.branches = true) (hkeeps : g.Keeps e part) : answer e = true := by
  induction hkeeps with
  | refl =>
    rw [← hfixed]
    cases part <;> first | rfl | cases hbranches
  | left _ ih =>
    rw [← hfixed] at ih ⊢
    simp only [variation, Element.varies] at ih ⊢
    rw [ih, Bool.true_or]
  | right _ ih =>
    rw [← hfixed] at ih ⊢
    simp only [variation, Element.varies] at ih ⊢
    rw [ih, Bool.or_true]
  | @marked s marker body hmarker _ ih =>
    rw [← hfixed] at ih ⊢
    cases marker with
    | drop => exact absurd rfl hmarker
    | _ => exact ih
  | reference hfind _ _ ih =>
    rw [← hfixed]
    simp [variation, Element.varies, hfind, ih]

/-- A kept part branches that is kept by way of a reference, just if there is one in the body of the
definition. -/
theorem matchesVariableText_reference (g : Grammar) (s : Span) (name : String) :
    g.matchesVariableText (.reference s name) =
      ((g.find? name).map fun d => g.matchesVariableText d.body).getD false := by
  rw [Bool.eq_iff_iff, matchesVariableText_iff]
  cases hfind : g.find? name with
  | none =>
    refine ⟨?_, fun hno => by cases hno⟩
    rintro ⟨part, hbranches, hkeeps⟩
    cases hkeeps with
    | refl => cases hbranches
    | reference hfind' =>
      rw [hfind] at hfind'
      cases hfind'
  | some d =>
    rw [Option.map_some, Option.getD_some, matchesVariableText_iff]
    constructor
    · rintro ⟨part, hbranches, hkeeps⟩
      cases hkeeps with
      | refl => cases hbranches
      | reference hfind' _ hbody =>
        rw [hfind] at hfind'
        cases hfind'
        exact ⟨part, hbranches, hbody⟩
    · rintro ⟨part, hbranches, hkeeps⟩
      exact ⟨part, hbranches, .reference hfind List.not_mem_nil hkeeps⟩

/-- The answer of the analysis agrees with itself across references, and it is the least one. -/
theorem isLeast_matchesVariableText (g : Grammar) :
    IsLeast {answer | g.variation answer = answer} g.matchesVariableText := by
  constructor
  · funext e
    have hfollow : (fun name => ((g.find? name).map fun d => g.matchesVariableText d.body).getD
        false) = g.nameVaries (g.size + 1) [] :=
      funext fun name => (matchesVariableText_reference g .nowhere name).symm
    rw [variation, hfollow, matchesVariableText]
  · intro answer hfixed e
    rw [Bool.le_iff_imp]
    intro hyes
    obtain ⟨part, hbranches, hkeeps⟩ := (matchesVariableText_iff g e).mp hyes
    exact variation_of_keeps hfixed hbranches hkeeps

end Grammar

/-- The same element with the operands of sequences in any order, and with its parts at any
places. -/
inductive Element.Reordered : Element → Element → Prop where
  | same {e e' : Element} : e.unplaced = e'.unplaced → e.Reordered e'
  | sequence {s s' : Span} {left left' right right' : Element} : left.Reordered left' →
      right.Reordered right' → (Element.sequence s left right).Reordered (.sequence s' left' right')
  | exchanged {s s' : Span} {left left' right right' : Element} : left.Reordered left' →
      right.Reordered right' → (Element.sequence s left right).Reordered (.sequence s' right' left')
  | marked {s s' : Span} {marker : Marker} {body body' : Element} : body.Reordered body' →
      (Element.marked s marker body).Reordered (.marked s' marker body')

namespace Element

variable {e e' : Element} {s : Span}

/-- Reordering can be undone. -/
theorem Reordered.symm (h : e.Reordered e') : e'.Reordered e := by
  induction h with
  | same hsame => exact .same hsame.symm
  | sequence _ _ ihl ihr => exact .sequence ihl ihr
  | exchanged _ _ ihl ihr => exact .exchanged ihr ihl
  | marked _ ih => exact .marked ih

/-- Whether an element branches does not depend on places. -/
theorem branches_unplaced (e : Element) : e.unplaced.branches = e.branches := by
  cases e <;> rfl

/-- Whether an element branches does not depend on the order of operands. -/
theorem Reordered.branches (h : e.Reordered e') : e'.branches = e.branches := by
  cases h with
  | same hsame => rw [← e.branches_unplaced, hsame, e'.branches_unplaced]
  | _ => rfl

/-- A reference is reordered to a reference with the same name. -/
theorem Reordered.of_reference {name : String} (h : (reference s name).Reordered e') :
    ∃ s', e' = reference s' name := by
  cases h with
  | same hsame =>
    cases e' with
    | reference s' name' =>
      obtain rfl : name = name' := by simpa [unplaced] using hsame
      exact ⟨s', rfl⟩
    | _ => cases hsame

/-- A marked element is reordered inside of its marker. -/
theorem Reordered.of_marked {marker : Marker} {body : Element}
    (h : (Element.marked s marker body).Reordered e') :
    ∃ s' body', e' = .marked s' marker body' ∧ body.Reordered body' := by
  cases h with
  | same hsame =>
    cases e' with
    | marked s' marker' body' =>
      obtain ⟨rfl, hbody⟩ : marker = marker' ∧ body.unplaced = body'.unplaced := by
        simpa [unplaced] using hsame
      exact ⟨s', body', rfl, .same hbody⟩
    | _ => cases hsame
  | marked hbody => exact ⟨_, _, rfl, hbody⟩

/-- A sequence is reordered in its operands, which may change places. -/
theorem Reordered.of_sequence {left right : Element}
    (h : (Element.sequence s left right).Reordered e') :
    ∃ s' left' right', left.Reordered left' ∧ right.Reordered right' ∧
      (e' = .sequence s' left' right' ∨ e' = .sequence s' right' left') := by
  cases h with
  | same hsame =>
    cases e' with
    | sequence s' left' right' =>
      obtain ⟨hleft, hright⟩ : left.unplaced = left'.unplaced ∧ right.unplaced = right'.unplaced :=
        by simpa [unplaced] using hsame
      exact ⟨s', left', right', .same hleft, .same hright, .inl rfl⟩
    | _ => cases hsame
  | sequence hleft hright => exact ⟨_, _, _, hleft, hright, .inl rfl⟩
  | exchanged hleft hright => exact ⟨_, _, _, hleft, hright, .inr rfl⟩

end Element

namespace Grammar

variable {g g' : Grammar} {e e' part : Element}

/-- Every definition has a counterpart of the same name in the other grammar, with the body
reordered. The order of the definitions does not matter. -/
def Reordered (g g' : Grammar) : Prop :=
  (∀ d ∈ g.definitions, ∃ d' ∈ g'.definitions, d'.name = d.name ∧ d.body.Reordered d'.body) ∧
    ∀ d' ∈ g'.definitions, ∃ d ∈ g.definitions, d.name = d'.name ∧ d'.body.Reordered d.body

/-- The reordering of a grammar can be undone. -/
theorem Reordered.symm (h : g.Reordered g') : g'.Reordered g :=
  ⟨h.2, h.1⟩

/-- To write the definitions in another order is one way to reorder a grammar. -/
theorem Rearranged.reordered (h : g.Rearranged g') : g.Reordered g' := by
  have hcounterpart : ∀ {g g' : Grammar}, g.Rearranged g' → ∀ d ∈ g.definitions,
      ∃ d' ∈ g'.definitions, d'.name = d.name ∧ d.body.Reordered d'.body := by
    intro g g' h d hd
    obtain ⟨d', hd', hsame⟩ := h.counterpart hd
    exact ⟨d', hd', Definition.name_eq_of_unplaced hsame,
      .same (congrArg Definition.body hsame.symm)⟩
  exact ⟨hcounterpart h, hcounterpart h.symm⟩

/-- A kept part that branches has its counterpart after any reordering. -/
theorem Reordered.exists_kept (h : g.Reordered g') (hbranches : part.branches = true)
    (hkeeps : g.Keeps e part) (he : e.Reordered e') :
    ∃ part', part'.branches = true ∧ g'.Keeps e' part' := by
  induction hkeeps generalizing e' with
  | refl => exact ⟨e', he.branches.trans hbranches, .refl⟩
  | left _ ih =>
    obtain ⟨s', left', right', hleft, _, rfl | rfl⟩ := he.of_sequence
    · exact (ih hleft).imp fun _ h => h.imp_right .left
    · exact (ih hleft).imp fun _ h => h.imp_right .right
  | right _ ih =>
    obtain ⟨s', left', right', _, hright, rfl | rfl⟩ := he.of_sequence
    · exact (ih hright).imp fun _ h => h.imp_right .right
    · exact (ih hright).imp fun _ h => h.imp_right .left
  | marked hmarker _ ih =>
    obtain ⟨s', body', rfl, hbody⟩ := he.of_marked
    exact (ih hbody).imp fun _ h => h.imp_right (.marked hmarker)
  | @reference s name d hfind _ _ ih =>
    obtain ⟨s', rfl⟩ := he.of_reference
    obtain ⟨d', hd', hname, hbody⟩ := h.1 d (mem_of_find? hfind)
    have hfind' : g'.find? name = some d' := by
      rw [← name_of_find? hfind, ← hname]
      exact find?_name hd'
    exact (ih hbody).imp fun _ h => h.imp_right (.reference hfind' List.not_mem_nil)

/-- The order of operands and of definitions does not change whether an element matches variable
text. -/
theorem Reordered.matchesVariableText (h : g.Reordered g') (he : e.Reordered e') :
    g'.matchesVariableText e' = g.matchesVariableText e := by
  rw [Bool.eq_iff_iff, matchesVariableText_iff, matchesVariableText_iff]
  constructor
  · rintro ⟨part, hbranches, hkeeps⟩
    exact h.symm.exists_kept hbranches hkeeps he.symm
  · rintro ⟨part, hbranches, hkeeps⟩
    exact h.exists_kept hbranches hkeeps he

/-- Every search for variable text comes to an end, and in whatever order it looks at operands, it
ends with the answer of the analysis. That is yes just if a kept part branches: a finite way leads
there, through sequences, markers other than `@drop` and references to definitions. It is the least
answer that agrees with itself across references, and the order of operands and of definitions does
not matter for it. -/
theorem matchesVariableText_least (g : Grammar) :
    WellFounded (fun inner outer : List Nat × Element => g.Consults outer inner) ∧
      (∀ e answer, g.Answers [] e answer ↔ answer = g.matchesVariableText e) ∧
      (∀ e, g.matchesVariableText e = true ↔ ∃ part, part.branches = true ∧ g.Keeps e part) ∧
      IsLeast {answer | g.variation answer = answer} g.matchesVariableText ∧
      (∀ g' : Grammar, g.Rearranged g' → g'.matchesVariableText = g.matchesVariableText) ∧
      ∀ (g' : Grammar) (e e' : Element), g.Reordered g' → e.Reordered e' →
        g'.matchesVariableText e' = g.matchesVariableText e := by
  refine ⟨wellFounded_consults g, answers_iff g, matchesVariableText_iff g,
    isLeast_matchesVariableText g, fun g' h => funext fun e => ?_,
    fun g' e e' h he => h.matchesVariableText he⟩
  exact h.reordered.matchesVariableText (.same rfl)

/-- The definitions `A = "x" B;`, `B = A /[0-9]/;` and `C = C Missing;`. -/
def loops : Grammar where
  definitions :=
    [⟨0, .rule, "A", ⟨0, 1⟩, .sequence ⟨4, 9⟩ (.text ⟨4, 7⟩ "x") (.reference ⟨8, 9⟩ "B"), [],
        ⟨0, 10⟩⟩,
      ⟨1, .rule, "B", ⟨11, 12⟩,
        .sequence ⟨15, 24⟩ (.reference ⟨15, 16⟩ "A") (.regex ⟨17, 24⟩ "[0-9]" 1), [], ⟨11, 25⟩⟩,
      ⟨2, .rule, "C", ⟨26, 27⟩,
        .sequence ⟨30, 39⟩ (.reference ⟨30, 31⟩ "C") (.reference ⟨32, 39⟩ "Missing"), [],
        ⟨26, 40⟩⟩]
  options := []
  numbered := rfl
  distinct := show (["A", "B", "C"].map Text.LetterCase.lowerText).Nodup by decide

/-- The definitions `C = Missing C;`, `B = /[0-9]/ A;` and `A = B "x";`. -/
def loopsBackwards : Grammar where
  definitions :=
    [⟨0, .rule, "C", ⟨0, 1⟩,
        .sequence ⟨4, 13⟩ (.reference ⟨4, 11⟩ "Missing") (.reference ⟨12, 13⟩ "C"), [], ⟨0, 14⟩⟩,
      ⟨1, .rule, "B", ⟨15, 16⟩,
        .sequence ⟨19, 28⟩ (.regex ⟨19, 26⟩ "[0-9]" 1) (.reference ⟨27, 28⟩ "A"), [], ⟨15, 29⟩⟩,
      ⟨2, .rule, "A", ⟨30, 31⟩, .sequence ⟨34, 39⟩ (.reference ⟨34, 35⟩ "B") (.text ⟨36, 39⟩ "x"),
        [], ⟨30, 40⟩⟩]
  options := []
  numbered := rfl
  distinct := show (["C", "B", "A"].map Text.LetterCase.lowerText).Nodup by decide

/-- From `A`, a search around the loop finds the digit, and from `C` it finds nothing in the loop
and behind the undefined name. Backwards it is the same. -/
theorem loops_searched_in_both_orders :
    loops.Reordered loopsBackwards ∧
      loops.Answers [] loops.definitions[0].body true ∧
      loops.Answers [] loops.definitions[2].body false ∧
      loopsBackwards.matchesVariableText loopsBackwards.definitions[2].body = true ∧
      loopsBackwards.matchesVariableText loopsBackwards.definitions[0].body = false := by
  have hA : loops.definitions[0].body.Reordered loopsBackwards.definitions[2].body :=
    .exchanged (.same rfl) (.same rfl)
  have hB : loops.definitions[1].body.Reordered loopsBackwards.definitions[1].body :=
    .exchanged (.same rfl) (.same rfl)
  have hC : loops.definitions[2].body.Reordered loopsBackwards.definitions[0].body :=
    .exchanged (.same rfl) (.same rfl)
  have hreordered : loops.Reordered loopsBackwards := by
    constructor
    · intro d hd
      fin_cases hd
      · exact ⟨loopsBackwards.definitions[2], by decide, rfl, hA⟩
      · exact ⟨loopsBackwards.definitions[1], by decide, rfl, hB⟩
      · exact ⟨loopsBackwards.definitions[0], by decide, rfl, hC⟩
    · intro d hd
      fin_cases hd
      · exact ⟨loops.definitions[2], by decide, rfl, hC.symm⟩
      · exact ⟨loops.definitions[1], by decide, rfl, hB.symm⟩
      · exact ⟨loops.definitions[0], by decide, rfl, hA.symm⟩
  obtain ⟨_, hanswers, _, _, _, horder⟩ := matchesVariableText_least loops
  have hvaries : loops.matchesVariableText loops.definitions[0].body = true := rfl
  have hfixed : loops.matchesVariableText loops.definitions[2].body = false := rfl
  exact ⟨hreordered, (hanswers _ _).mpr hvaries.symm, (hanswers _ _).mpr hfixed.symm,
    (horder _ _ _ hreordered hA).trans hvaries, (horder _ _ _ hreordered hC).trans hfixed⟩

end Grammar

end Peg
