import Mathlib.Logic.Relation
import Peg.Code.Lowering
import Peg.Proofs.Analysis.Closure
import Peg.Proofs.Except

/-!
# Which definitions can be lowered

An element has an operation if everything in it can stand in a parser rule and all its references
can be followed. A reference to a definition that the parser does not call is followed into the body
of that definition, so references that lead back to where the expansion began can never be followed.
Without such references the budget is large enough.
-/

namespace Peg

namespace Element

/-- An element and everything inside it. -/
def parts (e : Element) : List Element :=
  e :: match e with
    | .sequence _ left right | .choice _ left right => left.parts ++ right.parts
    | .optional _ body | .zeroOrMore _ body | .oneOrMore _ body | .not _ body
    | .marked _ _ body => body.parts
    | .text _ _ | .regex _ _ _ | .number _ _ | .boolean _ _ | .reference _ _ => []

/-- Whether an element is of a kind that can stand in a parser rule. Numbers and booleans are not,
and neither is a regular expression that is malformed. -/
def IsSupported : Element → Prop
  | .number _ _ | .boolean _ _ => False
  | .regex _ pattern _ => ∃ automaton, Regex.compile pattern = .ok automaton
  | _ => True

/-- An element can be lowered if all its parts can stand in a rule and all its references can be
followed. -/
theorem exists_lower_iff {label : String} {follow : Reference → Except LoweringError Combinator}
    {e : Element} : (∃ c, e.lower label follow = .ok c) ↔
      (∀ part ∈ e.parts, part.IsSupported) ∧ ∀ r ∈ e.references, ∃ c, follow r = .ok c := by
  induction e with
  | text => simp [lower, parts, references, IsSupported]
  | regex s pattern times =>
    cases hcompile : Regex.compile pattern with
    | ok automaton => simp [lower, parts, references, IsSupported, hcompile]
    | error cause => simp [lower, parts, references, IsSupported, hcompile]
  | number => simp [lower, parts, IsSupported]
  | boolean => simp [lower, parts, IsSupported]
  | reference => simp [lower, parts, references, IsSupported]
  | sequence _ left right ihl ihr | choice _ left right ihl ihr =>
    simp only [lower, exists_bind_eq_ok_iff, parts, references, List.forall_mem_cons,
      List.forall_mem_append]
    constructor
    · rintro ⟨l, hl, r, hr, _⟩
      obtain ⟨hleft, hfollowl⟩ := ihl.mp ⟨l, hl⟩
      obtain ⟨hright, hfollowr⟩ := ihr.mp ⟨r, hr⟩
      exact ⟨⟨trivial, hleft, hright⟩, hfollowl, hfollowr⟩
    · rintro ⟨⟨_, hleft, hright⟩, hfollowl, hfollowr⟩
      obtain ⟨l, hl⟩ := ihl.mpr ⟨hleft, hfollowl⟩
      obtain ⟨r, hr⟩ := ihr.mpr ⟨hright, hfollowr⟩
      exact ⟨l, hl, r, hr, _, rfl⟩
  | optional _ body ih | zeroOrMore _ body ih | oneOrMore _ body ih | not _ body ih
  | marked _ _ body ih =>
    simp only [lower, exists_bind_eq_ok_iff, parts, references, List.forall_mem_cons]
    constructor
    · rintro ⟨b, hb, _⟩
      obtain ⟨hbody, hfollow⟩ := ih.mp ⟨b, hb⟩
      exact ⟨⟨trivial, hbody⟩, hfollow⟩
    · rintro ⟨⟨_, hbody⟩, hfollow⟩
      obtain ⟨b, hb⟩ := ih.mpr ⟨hbody, hfollow⟩
      exact ⟨b, hb, _, rfl⟩

end Element

namespace Grammar

/-- Everything in the body of a definition can stand in a parser rule, and every reference in it is
to a rule. -/
structure Lowerable (g : Grammar) (d : Definition) : Prop where
  supported : ∀ part ∈ d.body.parts, part.IsSupported
  rules : ∀ r ∈ d.body.references, ∃ t, g.find? r.name = some t ∧ t.kind = .rule

/-- The body of `d` refers to `t`, an inline definition that the parser does not call, so that the
body of `t` takes the place of the reference. -/
def Splices (g : Grammar) (callable : List Nat) (d t : Definition) : Prop :=
  t.isInline = true ∧ t.kind = .rule ∧ t.id ∉ callable ∧ ∃ span, g.Refers d t span

/-- The body of a definition goes into the parser, as a rule of its own or as a part of one. -/
inductive Used (g : Grammar) (callable : List Nat) : Definition → Prop where
  | called {d : Definition} : d ∈ g.definitions → d.id ∈ callable → g.Used callable d
  | spliced {d t : Definition} : g.Used callable d → g.Splices callable d t → g.Used callable t

/-- Every body that goes into the parser can be lowered, and no inline definition takes its own
place. -/
structure Expandable (g : Grammar) (callable : List Nat) : Prop where
  lowerable : ∀ d, g.Used callable d → g.Lowerable d
  acyclic : ∀ d, g.Used callable d → ¬ Relation.TransGen (g.Splices callable) d d

/-- The body of a definition has an operation, where those in `expanding` are being expanded. -/
def CanLower (g : Grammar) (callable : List Nat) (budget : Nat) (expanding : List Nat)
    (d : Definition) : Prop :=
  ∃ c, d.body.lower d.errorLabel (g.lowerReference callable budget expanding) = .ok c

variable {g : Grammar} {callable expanding : List Nat} {budget root : Nat} {d t : Definition}
  {r : Reference}

/-- A reference can be followed if it is to a rule, and the parser calls that or can expand it. -/
theorem exists_lowerReference_iff :
    (∃ c, g.lowerReference callable (budget + 1) expanding r = .ok c) ↔
      ∃ t, g.find? r.name = some t ∧ t.kind = .rule ∧
        (t.id ∈ callable ∨
          t.id ∉ expanding ∧ g.CanLower callable budget (t.id :: expanding) t) := by
  rw [lowerReference]
  cases hfind : g.find? r.name with
  | none => simp
  | some t =>
    cases hkind : t.kind with
    | highlight => simp [hkind]
    | rule =>
      by_cases hcall : t.id ∈ callable
      · obtain ⟨place, hplace⟩ := Option.isSome_iff_exists.mp (List.isSome_idxOf?.mpr hcall)
        simp [hkind, hplace, hcall]
      · have hplace : callable.idxOf? t.id = none := List.idxOf?_eq_none_iff.mpr hcall
        by_cases hagain : t.id ∈ expanding
        · simp [hkind, hplace, hcall, hagain]
        · simp [hkind, hplace, hcall, hagain, CanLower]

/-- With one more step of budget, a definition can be lowered if its parts are supported and each
reference leads to a callable rule or to one that can be spliced in with the rest of the budget. -/
theorem canLower_succ_iff : g.CanLower callable (budget + 1) expanding d ↔
    (∀ part ∈ d.body.parts, part.IsSupported) ∧
      ∀ r ∈ d.body.references, ∃ t, g.find? r.name = some t ∧ t.kind = .rule ∧
        (t.id ∈ callable ∨
          t.id ∉ expanding ∧ g.CanLower callable budget (t.id :: expanding) t) := by
  simp only [CanLower, Element.exists_lower_iff, exists_lowerReference_iff]

/-- Without a budget no reference can be followed. -/
theorem canLower_zero_iff : g.CanLower callable 0 expanding d ↔
    (∀ part ∈ d.body.parts, part.IsSupported) ∧ d.body.references = [] := by
  simp [CanLower, Element.exists_lower_iff, lowerReference, List.eq_nil_iff_forall_not_mem]

/-- What can be lowered within a budget can be lowered. -/
theorem CanLower.lowerable (h : g.CanLower callable budget expanding d) : g.Lowerable d := by
  cases budget with
  | zero =>
    obtain ⟨hsupported, hnone⟩ := canLower_zero_iff.mp h
    exact ⟨hsupported, by simp [hnone]⟩
  | succ budget =>
    obtain ⟨hsupported, hrefs⟩ := canLower_succ_iff.mp h
    refine ⟨hsupported, fun r hr => ?_⟩
    obtain ⟨t, hfind, hkind, _⟩ := hrefs r hr
    exact ⟨t, hfind, hkind⟩

/-- The lowering of a body goes on, with less budget, in the bodies that take the places of its
references. -/
theorem CanLower.splices (h : g.CanLower callable budget expanding d)
    (hsplices : g.Splices callable d t) :
    ∃ less < budget, g.CanLower callable less (t.id :: expanding) t := by
  obtain ⟨_, _, hnot, _, r, hr, _, hfind⟩ := hsplices
  cases budget with
  | zero =>
    have hnone := (canLower_zero_iff.mp h).2
    rw [hnone] at hr
    cases hr
  | succ budget =>
    obtain ⟨t', hfind', _, hfollow⟩ := (canLower_succ_iff.mp h).2 r hr
    cases hfind.symm.trans hfind'
    rcases hfollow with hcall | ⟨_, hbody⟩
    · exact absurd hcall hnot
    · exact ⟨budget, Nat.lt_succ_self budget, hbody⟩

/-- A body that can be lowered does not take its own place: the budget would have to be less than
itself. -/
theorem CanLower.acyclic (h : g.CanLower callable budget expanding d) :
    ¬ Relation.TransGen (g.Splices callable) d d := by
  induction budget using Nat.strongRecOn generalizing expanding d with
  | ind budget ih =>
    intro hcycle
    obtain ⟨t, hfirst, hback⟩ := Relation.TransGen.head'_iff.mp hcycle
    obtain ⟨less, hless, ht⟩ := h.splices hfirst
    exact ih less hless ht (.tail' hback hfirst)

/-- If the rules that the parser calls can be lowered then so can everything that goes into them. -/
theorem Used.canLower
    (hcalled : ∀ d ∈ g.definitions, d.id ∈ callable → g.CanLower callable budget [] d)
    (h : g.Used callable d) : ∃ budget expanding, g.CanLower callable budget expanding d := by
  induction h with
  | called hd hcall => exact ⟨budget, [], hcalled _ hd hcall⟩
  | spliced _ hsplices ih =>
    obtain ⟨budget, expanding, hlower⟩ := ih
    obtain ⟨less, _, ht⟩ := hlower.splices hsplices
    exact ⟨less, _, ht⟩

/-- A definition in use is one of the grammar's. -/
theorem Used.mem (h : g.Used callable d) : d ∈ g.definitions := by
  cases h with
  | called hd => exact hd
  | spliced _ hsplices =>
    obtain ⟨_, _, _, _, hrefers⟩ := hsplices
    exact hrefers.mem

/-- Whatever goes into the parser is reachable from the root. -/
theorem Used.reachable (hroot : root < g.size) (h : g.Used (g.callableRules root) d) :
    d.id ∈ g.reachable g.ruleTargets [root] := by
  induction h with
  | called _ hcall => exact (List.mem_filter.mp hcall).1
  | spliced hused hsplices ih =>
    obtain ⟨_, hkind, _, _, r, hr, _, hfind⟩ := hsplices
    exact mem_reachable_of_refers hroot hused.mem ih hr hfind hkind

/-- A reference to a rule that the parser does not call is replaced by the body of the rule. -/
theorem Used.splices (hroot : root < g.size) (h : g.Used (g.callableRules root) d)
    (hr : r ∈ d.body.references) (hfind : g.find? r.name = some t) (hkind : t.kind = .rule)
    (hnot : t.id ∉ g.callableRules root) : g.Splices (g.callableRules root) d t := by
  have hreachable := mem_reachable_of_refers hroot h.mem (h.reachable hroot) hr hfind hkind
  have hinline := isInline_of_not_mem_callableRules (mem_of_find? hfind) hreachable hnot
  exact ⟨hinline, hkind, hnot, r.span, r, hr, rfl, hfind⟩

/-- The definitions that are being expanded have led, each by taking the place of a reference, to
the one whose body is lowered. -/
structure Unfolding (g : Grammar) (callable expanding : List Nat) (d : Definition) : Prop where
  used : g.Used callable d
  nodup : expanding.Nodup
  leads : ∀ id ∈ expanding, ∃ e ∈ g.definitions, e.id = id ∧
    Relation.ReflTransGen (g.Splices callable) e d

/-- No more definitions are being unfolded at once than the grammar has. -/
theorem Unfolding.length_le (h : g.Unfolding callable expanding d) :
    expanding.length ≤ g.size := by
  refine length_le_of_nodup h.nodup fun id hid => ?_
  obtain ⟨e, he, rfl, _⟩ := h.leads id hid
  exact id_lt_size he

/-- Without cycles, the expansion never comes back to a definition that is being expanded. -/
theorem Unfolding.not_mem (hexpandable : g.Expandable callable)
    (h : g.Unfolding callable expanding d) (hsplices : g.Splices callable d t) :
    t.id ∉ expanding := by
  intro hmem
  have ht : g.Used callable t := .spliced h.used hsplices
  obtain ⟨e, he, hid, hleads⟩ := h.leads t.id hmem
  obtain rfl := eq_of_id_eq he ht.mem hid
  exact hexpandable.acyclic e ht (.tail' hleads hsplices)

/-- An unfolding goes on into a definition that is spliced in and not yet being unfolded. -/
theorem Unfolding.enter (h : g.Unfolding callable expanding d)
    (hsplices : g.Splices callable d t) (hnew : t.id ∉ expanding) :
    g.Unfolding callable (t.id :: expanding) t where
  used := .spliced h.used hsplices
  nodup := List.nodup_cons.mpr ⟨hnew, h.nodup⟩
  leads id hid := by
    rcases List.mem_cons.mp hid with rfl | hid
    · exact ⟨t, (Used.spliced h.used hsplices).mem, rfl, .refl⟩
    · obtain ⟨e, he, hid, hleads⟩ := h.leads id hid
      exact ⟨e, he, hid, .tail hleads hsplices⟩

/-- Where everything can be expanded, the budget lasts: it and the definitions that are being
expanded are together more than there are definitions. -/
theorem Unfolding.canLower (hroot : root < g.size)
    (hexpandable : g.Expandable (g.callableRules root))
    (h : g.Unfolding (g.callableRules root) expanding d)
    (hbudget : g.size < budget + expanding.length) :
    g.CanLower (g.callableRules root) budget expanding d := by
  induction budget generalizing expanding d with
  | zero =>
    have hlength := h.length_le
    omega
  | succ budget ih =>
    have hd := hexpandable.lowerable d h.used
    refine canLower_succ_iff.mpr ⟨hd.supported, fun r hr => ?_⟩
    obtain ⟨t, hfind, hkind⟩ := hd.rules r hr
    refine ⟨t, hfind, hkind, ?_⟩
    by_cases hcall : t.id ∈ g.callableRules root
    · exact Or.inl hcall
    · have hsplices := h.used.splices hroot hr hfind hkind hcall
      have hnew := h.not_mem hexpandable hsplices
      refine Or.inr ⟨hnew, ih (h.enter hsplices hnew) ?_⟩
      simp only [List.length_cons]
      omega

/-- All rules that the parser calls can be lowered just if everything can be expanded. -/
theorem canLower_callableRules_iff (hroot : root < g.size) :
    (∀ d ∈ g.definitions, d.id ∈ g.callableRules root →
      g.CanLower (g.callableRules root) (g.size + 1) [] d) ↔
      g.Expandable (g.callableRules root) := by
  constructor
  · intro hcalled
    constructor
    · intro d hused
      obtain ⟨budget, expanding, hlower⟩ := hused.canLower hcalled
      exact hlower.lowerable
    · intro d hused
      obtain ⟨budget, expanding, hlower⟩ := hused.canLower hcalled
      exact hlower.acyclic
  · intro hexpandable d hd hcall
    have hstart : g.Unfolding (g.callableRules root) [] d := ⟨.called hd hcall, .nil, by simp⟩
    exact hstart.canLower hroot hexpandable (Nat.lt_succ_self g.size)

end Grammar

end Peg
