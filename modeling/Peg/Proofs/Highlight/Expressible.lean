import Mathlib.Logic.Relation
import Peg.Proofs.Code.Lowerable
import Peg.Proofs.Highlight.Composition

/-!
# Which definitions can be expressed by a pattern

The references in a body are followed into the bodies of other definitions, and so on, so a body
unfolds to a tree. The elements of this tree that no pattern can express are the offences, and the
first of them is what is reported. There is none just if the references, however they are followed,
all lead somewhere, to no choice and never around in a circle.
-/

namespace Peg

/-- The first of the errors is reported, and without errors there is a result. -/
def ReportsFirst {ε α : Type} (errors : List ε) (result : Except ε α) : Prop :=
  match errors with
  | [] => ∃ a, result = .ok a
  | error :: _ => result = .error error

namespace ReportsFirst

variable {ε α β : Type} {errors errors' : List ε} {result : Except ε α}

/-- The errors of the second part of a computation are behind those of the first one. -/
theorem bind {f : α → Except ε β} (h : ReportsFirst errors result)
    (h' : ∀ a, ReportsFirst errors' (f a)) : ReportsFirst (errors ++ errors') (result >>= f) := by
  cases errors with
  | nil =>
    obtain ⟨a, rfl⟩ := h
    exact h' a
  | cons error errors =>
    obtain rfl : result = .error error := h
    rfl

/-- A result that only needs to be finished adds no errors. -/
theorem finish {f : α → β} (h : ReportsFirst errors result) :
    ReportsFirst errors (do return f (← result)) := by
  have hpure (a : α) : ReportsFirst [] (pure (f a) : Except ε β) := ⟨f a, rfl⟩
  have hall := h.bind hpure
  rwa [List.append_nil] at hall

/-- An error is reported just if it is the first one. -/
theorem eq_error_iff (h : ReportsFirst errors result) {error : ε} :
    result = .error error ↔ errors.head? = some error := by
  cases errors with
  | nil =>
    obtain ⟨a, rfl⟩ := h
    simp
  | cons first errors =>
    obtain rfl : result = .error first := h
    simp

/-- There is a result just if there are no errors. -/
theorem exists_eq_ok_iff (h : ReportsFirst errors result) :
    (∃ a, result = .ok a) ↔ errors = [] := by
  cases errors with
  | nil => exact iff_of_true h rfl
  | cons first errors =>
    obtain rfl : result = .error first := h
    simp

end ReportsFirst

namespace Grammar

/-- An element unfolds to a tree, depth first and from left to right, with these offences: choices,
references to nothing, and references to a definition that is being expanded already. -/
inductive Unfolds (g : Grammar) :
    List Definition → Element → List DerivationError → Prop where
  | text {expanding span content} : g.Unfolds expanding (.text span content) []
  | regex {expanding span source times} : g.Unfolds expanding (.regex span source times) []
  | number {expanding span digits} : g.Unfolds expanding (.number span digits) []
  | boolean {expanding span value} : g.Unfolds expanding (.boolean span value) []
  | sequence {expanding span left right errors errors'} :
    g.Unfolds expanding left errors → g.Unfolds expanding right errors' →
      g.Unfolds expanding (.sequence span left right) (errors ++ errors')
  | choice {expanding span left right errors errors'} :
    g.Unfolds expanding left errors → g.Unfolds expanding right errors' →
      g.Unfolds expanding (.choice span left right)
        (.choice ((expanding.head?.map Definition.name).getD "") span :: (errors ++ errors'))
  | optional {expanding span body errors} :
    g.Unfolds expanding body errors → g.Unfolds expanding (.optional span body) errors
  | zeroOrMore {expanding span body errors} :
    g.Unfolds expanding body errors → g.Unfolds expanding (.zeroOrMore span body) errors
  | oneOrMore {expanding span body errors} :
    g.Unfolds expanding body errors → g.Unfolds expanding (.oneOrMore span body) errors
  | not {expanding span body errors} :
    g.Unfolds expanding body errors → g.Unfolds expanding (.not span body) errors
  | marked {expanding span marker body errors} :
    g.Unfolds expanding body errors → g.Unfolds expanding (.marked span marker body) errors
  | undefined {expanding span name} : g.find? name = none →
    g.Unfolds expanding (.reference span name) [.undefinedReference name span]
  | recursive {expanding span name d} : g.find? name = some d → d.isAmong expanding = true →
    g.Unfolds expanding (.reference span name) [.recursiveReference name span]
  | expanded {expanding span name d errors} : g.find? name = some d →
    ¬ d.isAmong expanding = true → g.Unfolds (d :: expanding) d.body errors →
      g.Unfolds expanding (.reference span name) errors

/-- Along the references from a definition, all names are defined, no body contains a choice, and no
definition leads back to itself. -/
structure Expressible (g : Grammar) (d : Definition) : Prop where
  defined : ∀ t, Relation.ReflTransGen g.Leads d t →
    ∀ r ∈ t.body.references, (g.find? r.name).isSome = true
  choiceless : ∀ t, Relation.ReflTransGen g.Leads d t →
    ∀ span left right, .choice span left right ∉ t.body.parts
  acyclic : ∀ t, Relation.ReflTransGen g.Leads d t → ¬ Relation.TransGen g.Leads t t

variable {g : Grammar} {suffix : Option String} {expanding expanding' : List Definition}
  {e : Element} {d t : Definition} {errors errors' : List DerivationError}

/-- An element unfolds if the bodies do that its references are expanded to. -/
theorem exists_unfolds_of_bodies
    (hbodies : ∀ {name d}, g.find? name = some d → ¬ d.isAmong expanding = true →
      ∃ errors, g.Unfolds (d :: expanding) d.body errors) (e : Element) :
    ∃ errors, g.Unfolds expanding e errors := by
  induction e with
  | text => exact ⟨_, .text⟩
  | regex => exact ⟨_, .regex⟩
  | number => exact ⟨_, .number⟩
  | boolean => exact ⟨_, .boolean⟩
  | reference span name =>
    cases hfind : g.find? name with
    | none => exact ⟨_, .undefined hfind⟩
    | some d =>
      by_cases hamong : d.isAmong expanding = true
      · exact ⟨_, .recursive hfind hamong⟩
      · obtain ⟨errors, hbody⟩ := hbodies hfind hamong
        exact ⟨errors, .expanded hfind hamong hbody⟩
  | sequence _ left right ihl ihr =>
    obtain ⟨errors, hleft⟩ := ihl
    obtain ⟨errors', hright⟩ := ihr
    exact ⟨_, .sequence hleft hright⟩
  | choice _ left right ihl ihr =>
    obtain ⟨errors, hleft⟩ := ihl
    obtain ⟨errors', hright⟩ := ihr
    exact ⟨_, .choice hleft hright⟩
  | optional _ body ih => exact ih.imp fun _ => .optional
  | zeroOrMore _ body ih => exact ih.imp fun _ => .zeroOrMore
  | oneOrMore _ body ih => exact ih.imp fun _ => .oneOrMore
  | not _ body ih => exact ih.imp fun _ => .not
  | marked _ _ body ih => exact ih.imp fun _ => .marked

/-- Every element unfolds to a finite tree, since each expansion leaves fewer definitions. -/
theorem exists_unfolds (g : Grammar) (expanding : List Definition) (e : Element) :
    ∃ errors, g.Unfolds expanding e errors := by
  induction hremaining : g.remaining expanding using Nat.strongRecOn generalizing expanding e with
  | ind remaining ih =>
    refine exists_unfolds_of_bodies (fun hfind hnew => ?_) e
    exact ih _ (hremaining ▸ remaining_cons_lt hfind hnew) _ _ rfl

/-- There is only one way in which an element unfolds. -/
theorem Unfolds.unique (h : g.Unfolds expanding e errors) (h' : g.Unfolds expanding e errors') :
    errors = errors' := by
  induction h generalizing errors' with
  | text | regex | number | boolean =>
    cases h'
    rfl
  | sequence _ _ ihl ihr =>
    cases h' with
    | sequence hleft hright => rw [ihl hleft, ihr hright]
  | choice _ _ ihl ihr =>
    cases h' with
    | choice hleft hright => rw [ihl hleft, ihr hright]
  | optional _ ih =>
    cases h' with
    | optional hbody => exact ih hbody
  | zeroOrMore _ ih =>
    cases h' with
    | zeroOrMore hbody => exact ih hbody
  | oneOrMore _ ih =>
    cases h' with
    | oneOrMore hbody => exact ih hbody
  | not _ ih =>
    cases h' with
    | not hbody => exact ih hbody
  | marked _ ih =>
    cases h' with
    | marked hbody => exact ih hbody
  | undefined hfind =>
    cases h' with
    | undefined => rfl
    | recursive hfind' => cases hfind.symm.trans hfind'
    | expanded hfind' => cases hfind.symm.trans hfind'
  | recursive hfind hamong =>
    cases h' with
    | undefined hfind' => cases hfind.symm.trans hfind'
    | recursive => rfl
    | expanded hfind' hnew =>
      cases hfind.symm.trans hfind'
      exact absurd hamong hnew
  | expanded hfind hnew _ ih =>
    cases h' with
    | undefined hfind' => cases hfind.symm.trans hfind'
    | recursive hfind' hamong =>
      cases hfind.symm.trans hfind'
      exact absurd hamong hnew
    | expanded hfind' _ hbody =>
      cases hfind.symm.trans hfind'
      exact ih hbody

/-- What encloses the pattern of a definition brings no error of its own. -/
theorem reportsFirst_writeEnclosed {body : Writer} (d : Definition)
    (h : ∀ out, ReportsFirst errors (body out)) (out : HighlightPattern) :
    ReportsFirst errors (d.writeEnclosed suffix body out) := by
  rw [Definition.writeEnclosed]
  split
  · exact h out
  · cases d.scope? suffix with
    | none => exact h out
    | some scope => exact (h _).finish

/-- What is reported of an element is the first offence of its unfolding. -/
theorem Unfolds.reportsFirst (h : g.Unfolds expanding e errors) (out : HighlightPattern) :
    ReportsFirst errors (g.writeElement suffix expanding e out) := by
  induction h generalizing out with
  | text | regex | number | boolean => exact ⟨_, rfl⟩
  | sequence _ _ ihl ihr => exact (ihl out).bind ihr
  | choice => rfl
  | optional _ ih | zeroOrMore _ ih | oneOrMore _ ih | not _ ih => exact (ih _).finish
  | marked _ ih => exact ih out
  | @undefined expanding span name hfind =>
    have hwrite : g.writeReference suffix expanding ⟨name, span⟩ = _ :=
      writeReference_undefined hfind
    exact congrFun hwrite out
  | @recursive expanding span name d hfind hamong =>
    have hwrite : g.writeReference suffix expanding ⟨name, span⟩ = _ :=
      writeReference_recursive hfind hamong
    exact congrFun hwrite out
  | @expanded expanding span name d errors hfind hnew _ ih =>
    have hwrite : g.writeElement suffix expanding (.reference span name) =
        d.writeEnclosed suffix (g.writeElement suffix (d :: expanding) d.body) :=
      writeReference_expanded hfind hnew
    rw [hwrite]
    exact reportsFirst_writeEnclosed d ih out

/-- Without offences there is no choice, and every reference is expanded without offences. -/
theorem Unfolds.followed (h : g.Unfolds expanding e errors) (hnone : errors = []) :
    (∀ span left right, .choice span left right ∉ e.parts) ∧
      ∀ r ∈ e.references, ∃ t, g.find? r.name = some t ∧ ¬ t.isAmong expanding = true ∧
        g.Unfolds (t :: expanding) t.body [] := by
  induction h with
  | text | regex | number | boolean => simp [Element.parts, Element.references]
  | sequence _ _ ihl ihr =>
    obtain ⟨hleft, hright⟩ := List.append_eq_nil_iff.mp hnone
    obtain ⟨hpartsl, hrefsl⟩ := ihl hleft
    obtain ⟨hpartsr, hrefsr⟩ := ihr hright
    refine ⟨fun span left right => ?_, List.forall_mem_append.mpr ⟨hrefsl, hrefsr⟩⟩
    simp [Element.parts, hpartsl, hpartsr]
  | choice => cases hnone
  | optional _ ih | zeroOrMore _ ih | oneOrMore _ ih | not _ ih | marked _ ih =>
    obtain ⟨hparts, hrefs⟩ := ih hnone
    exact ⟨fun span left right => by simp [Element.parts, hparts], hrefs⟩
  | undefined | recursive => cases hnone
  | expanded hfind hnew hbody _ =>
    subst hnone
    refine ⟨by simp [Element.parts], fun r hr => ?_⟩
    rw [List.mem_singleton.mp hr]
    exact ⟨_, hfind, hnew, hbody⟩

/-- An element without choices has no offence if all its references can be followed without one. -/
theorem unfolds_nil_of_followed (hparts : ∀ span left right, .choice span left right ∉ e.parts)
    (hrefs : ∀ r ∈ e.references, ∃ t, g.find? r.name = some t ∧ ¬ t.isAmong expanding = true ∧
      g.Unfolds (t :: expanding) t.body []) : g.Unfolds expanding e [] := by
  induction e with
  | text => exact .text
  | regex => exact .regex
  | number => exact .number
  | boolean => exact .boolean
  | reference span name =>
    obtain ⟨t, hfind, hnew, hbody⟩ := hrefs ⟨name, span⟩ List.mem_cons_self
    exact .expanded hfind hnew hbody
  | sequence _ left right ihl ihr =>
    obtain ⟨hrefsl, hrefsr⟩ := List.forall_mem_append.mp hrefs
    refine .sequence (ihl (fun span l r hmem => ?_) hrefsl) (ihr (fun span l r hmem => ?_) hrefsr)
    · exact hparts span l r (List.mem_cons_of_mem _ (List.mem_append_left _ hmem))
    · exact hparts span l r (List.mem_cons_of_mem _ (List.mem_append_right _ hmem))
  | choice span left right => exact absurd List.mem_cons_self (hparts span left right)
  | optional _ body ih =>
    exact .optional (ih (fun s l r hmem => hparts s l r (List.mem_cons_of_mem _ hmem)) hrefs)
  | zeroOrMore _ body ih =>
    exact .zeroOrMore (ih (fun s l r hmem => hparts s l r (List.mem_cons_of_mem _ hmem)) hrefs)
  | oneOrMore _ body ih =>
    exact .oneOrMore (ih (fun s l r hmem => hparts s l r (List.mem_cons_of_mem _ hmem)) hrefs)
  | not _ body ih =>
    exact .not (ih (fun s l r hmem => hparts s l r (List.mem_cons_of_mem _ hmem)) hrefs)
  | marked _ _ body ih =>
    exact .marked (ih (fun s l r hmem => hparts s l r (List.mem_cons_of_mem _ hmem)) hrefs)

/-- A definition that is being expanded still is when more of them are. -/
theorem isAmong_mono (h : d.isAmong expanding = true) (hsub : expanding ⊆ expanding') :
    d.isAmong expanding' = true := by
  obtain ⟨e, he, hid⟩ := List.any_eq_true.mp h
  exact List.any_eq_true.mpr ⟨e, hsub he, hid⟩

/-- What unfolds without offences does so while fewer definitions are being expanded. -/
theorem Unfolds.mono (h : g.Unfolds expanding e errors) (hnone : errors = [])
    (hsub : expanding' ⊆ expanding) : g.Unfolds expanding' e [] := by
  induction h generalizing expanding' with
  | text => exact .text
  | regex => exact .regex
  | number => exact .number
  | boolean => exact .boolean
  | sequence _ _ ihl ihr =>
    obtain ⟨hleft, hright⟩ := List.append_eq_nil_iff.mp hnone
    exact .sequence (ihl hleft hsub) (ihr hright hsub)
  | choice => cases hnone
  | optional _ ih => exact .optional (ih hnone hsub)
  | zeroOrMore _ ih => exact .zeroOrMore (ih hnone hsub)
  | oneOrMore _ ih => exact .oneOrMore (ih hnone hsub)
  | not _ ih => exact .not (ih hnone hsub)
  | marked _ ih => exact .marked (ih hnone hsub)
  | undefined => cases hnone
  | recursive => cases hnone
  | @expanded expanding span name d errors hfind hnew _ ih =>
    have hnew' : ¬ d.isAmong expanding' = true := fun hamong => hnew (isAmong_mono hamong hsub)
    exact .expanded hfind hnew' (ih hnone (List.cons_subset_cons d hsub))

/-- Nothing prevents the body of a definition from being expanded behind those in `expanding`. -/
def Unhindered (g : Grammar) (expanding : List Definition) (d : Definition) : Prop :=
  g.Unfolds (d :: expanding) d.body []

/-- From a definition that can be expanded a reference leads to another one that can, and not
back. -/
theorem Unhindered.step (h : g.Unhindered expanding d) (hleads : g.Leads d t) :
    ¬ t.isAmong (d :: expanding) = true ∧ g.Unhindered (d :: expanding) t := by
  obtain ⟨span, r, hr, _, hfind⟩ := hleads
  obtain ⟨t', hfind', hnew, hbody⟩ := (Unfolds.followed h rfl).2 r hr
  cases hfind.symm.trans hfind'
  exact ⟨hnew, hbody⟩

/-- From a definition that can be expanded references lead only to such definitions. -/
theorem Unhindered.reaches (h : g.Unhindered [] d) (hreaches : Relation.ReflTransGen g.Leads d t) :
    g.Unhindered [] t := by
  induction hreaches with
  | refl => exact h
  | @tail t u _ hleads ih =>
    exact Unfolds.mono (ih.step hleads).2 rfl (List.cons_subset_cons u (List.nil_subset [t]))

/-- A definition that is being expanded is not expanded again, however far away. -/
theorem Unhindered.descend (h : g.Unhindered [] d) (hreaches : Relation.TransGen g.Leads d t) :
    ∃ expanding, d ∈ expanding ∧ ¬ t.isAmong expanding = true ∧ g.Unhindered expanding t := by
  induction hreaches with
  | single hleads => exact ⟨[d], List.mem_cons_self, h.step hleads⟩
  | tail _ hleads ih =>
    obtain ⟨expanding, hd, _, ht⟩ := ih
    exact ⟨_, List.mem_cons_of_mem _ hd, ht.step hleads⟩

/-- A definition that can be expanded is expressible. -/
theorem Unhindered.expressible (h : g.Unhindered [] d) : g.Expressible d where
  defined t hreaches r hr := by
    obtain ⟨u, hfind, _⟩ := (Unfolds.followed (h.reaches hreaches) rfl).2 r hr
    exact Option.isSome_iff_exists.mpr ⟨u, hfind⟩
  choiceless t hreaches := (Unfolds.followed (h.reaches hreaches) rfl).1
  acyclic t hreaches hcycle := by
    obtain ⟨expanding, hmem, hnew, _⟩ := (h.reaches hreaches).descend hcycle
    exact hnew (List.any_eq_true.mpr ⟨t, hmem, beq_self_eq_true t.id⟩)

/-- If the definitions that are being expanded have all led to `t`, and `t` is met on the way from
an expressible definition, then nothing prevents its expansion. -/
theorem Expressible.unhindered (h : g.Expressible d)
    (hreaches : Relation.ReflTransGen g.Leads d t)
    (hexpanding : ∀ e ∈ t :: expanding, e ∈ g.definitions ∧ Relation.ReflTransGen g.Leads e t) :
    g.Unhindered expanding t := by
  induction hremaining : g.remaining (t :: expanding) using Nat.strongRecOn
    generalizing expanding t with
  | ind remaining ih =>
    refine unfolds_nil_of_followed (h.choiceless t hreaches) fun r hr => ?_
    obtain ⟨u, hfind⟩ := Option.isSome_iff_exists.mp (h.defined t hreaches r hr)
    have hleads : g.Leads t u := ⟨r.span, r, hr, rfl, hfind⟩
    have hu := mem_of_find? hfind
    have hreachesu := hreaches.tail hleads
    -- A definition that has led to `t` would lead back to itself.
    have hnew : ¬ u.isAmong (t :: expanding) = true := by
      intro hamong
      obtain ⟨e, he, hid⟩ := List.any_eq_true.mp hamong
      obtain ⟨hmem, hled⟩ := hexpanding e he
      obtain rfl := eq_of_id_eq hmem hu (beq_iff_eq.mp hid)
      exact h.acyclic e hreachesu (.tail' hled hleads)
    refine ⟨u, hfind, hnew, ih _ (hremaining ▸ remaining_cons_lt hfind hnew) hreachesu ?_ rfl⟩
    intro e he
    rcases List.mem_cons.mp he with rfl | he
    · exact ⟨hu, .refl⟩
    · obtain ⟨hmem, hled⟩ := hexpanding e he
      exact ⟨hmem, hled.tail hleads⟩

/-- The definitions that can be expanded are those that are expressible. -/
theorem unhindered_iff (hd : d ∈ g.definitions) : g.Unhindered [] d ↔ g.Expressible d := by
  refine ⟨Unhindered.expressible, fun h => h.unhindered .refl fun e he => ?_⟩
  rw [List.mem_singleton.mp he]
  exact ⟨hd, .refl⟩

/-- The body of a definition unfolds in one way, and the first offence is the error that is reported
when it is written as it is and when it is written as one unit. There is none, and a pattern for
both, just if the definition is expressible. -/
theorem writing_succeeds_iff (suffix : Option String) (hd : d ∈ g.definitions) :
    (∃! errors, g.Unfolds [d] d.body errors) ∧
    (∀ errors error, g.Unfolds [d] d.body errors →
      (g.writeBody suffix d = .error error ↔ errors.head? = some error) ∧
      (g.writeScoped suffix d = .error error ↔ errors.head? = some error)) ∧
    ((∃ p, g.writeBody suffix d = .ok p) ↔ g.Expressible d) ∧
    ((∃ p, g.writeScoped suffix d = .ok p) ↔ g.Expressible d) := by
  have hreports {errors : List DerivationError} (h : g.Unfolds [d] d.body errors) :
      ReportsFirst errors (g.writeBody suffix d) ∧
        ReportsFirst errors (g.writeScoped suffix d) := by
    refine ⟨h.reportsFirst .empty, ?_⟩
    rw [writeScoped]
    cases d.scope? suffix with
    | none => exact (h.reportsFirst _).finish
    | some scope => exact (h.reportsFirst _).finish
  obtain ⟨errors, herrors⟩ := g.exists_unfolds [d] d.body
  have hnone : errors = [] ↔ g.Expressible d := by
    rw [← unhindered_iff hd]
    refine ⟨fun h => ?_, herrors.unique⟩
    rw [h] at herrors
    exact herrors
  refine ⟨⟨errors, herrors, fun others h => h.unique herrors⟩, fun errors error h => ?_, ?_, ?_⟩
  · exact ⟨(hreports h).1.eq_error_iff, (hreports h).2.eq_error_iff⟩
  · rw [(hreports herrors).1.exists_eq_ok_iff, hnone]
  · rw [(hreports herrors).2.exists_eq_ok_iff, hnone]

/-- Pairs of letters, where the second letter goes by another name, and rows of letters without
an end. -/
def letterGrammar : Grammar where
  definitions :=
    [⟨0, .highlight, "Pair", ⟨1, 5⟩,
        .sequence ⟨8, 21⟩ (.reference ⟨8, 14⟩ "Letter") (.reference ⟨15, 21⟩ "Second"), [],
        ⟨0, 22⟩⟩,
      ⟨1, .rule, "Second", ⟨23, 29⟩, .reference ⟨32, 38⟩ "Letter", [], ⟨23, 39⟩⟩,
      ⟨2, .rule, "Letter", ⟨40, 46⟩, .regex ⟨49, 56⟩ "[a-z]" 1, [], ⟨40, 57⟩⟩,
      ⟨3, .highlight, "Row", ⟨58, 61⟩,
        .sequence ⟨64, 74⟩ (.reference ⟨64, 70⟩ "Letter") (.optional ⟨71, 74⟩
          (.reference ⟨71, 74⟩ "Row")), [], ⟨58, 75⟩⟩]
  options := []
  numbered := rfl
  distinct :=
    show (["Pair", "Second", "Letter", "Row"].map Text.LetterCase.lowerText).Nodup by decide

/-- Letters are referred to twice in a pair, which is no recursion. A row is part of itself. -/
theorem letterGrammar_expressible :
    letterGrammar.Expressible letterGrammar.definitions[0] ∧
      letterGrammar.writeBody none letterGrammar.definitions[0] = .ok ⟨"[a-z][a-z]", []⟩ ∧
      ¬ letterGrammar.Expressible letterGrammar.definitions[3] ∧
      ∃ errors, letterGrammar.Unfolds [letterGrammar.definitions[3]]
        letterGrammar.definitions[3].body errors ∧
        errors.head? = some (.recursiveReference "Row" ⟨71, 74⟩) := by
  have hpair : letterGrammar.writeBody none letterGrammar.definitions[0] =
      .ok ⟨"[a-z][a-z]", []⟩ := by
    rw [writeBody_eq]
    rfl
  have hrow : letterGrammar.writeBody none letterGrammar.definitions[3] =
      .error (.recursiveReference "Row" ⟨71, 74⟩) := by
    rw [writeBody_eq]
    rfl
  obtain ⟨_, _, hexpressible, _⟩ :=
    writing_succeeds_iff (g := letterGrammar) none (d := letterGrammar.definitions[0])
      (List.getElem_mem _)
  obtain ⟨⟨errors, herrors, _⟩, hfirst, hexpressible', _⟩ :=
    writing_succeeds_iff (g := letterGrammar) none (d := letterGrammar.definitions[3])
      (List.getElem_mem _)
  refine ⟨hexpressible.mp ⟨_, hpair⟩, hpair, fun h => ?_, errors, herrors,
    (hfirst errors _ herrors).1.mp hrow⟩
  obtain ⟨p, hp⟩ := hexpressible'.mpr h
  cases hrow.symm.trans hp

end Grammar

end Peg
