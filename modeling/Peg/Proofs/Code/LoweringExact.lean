import Peg.Proofs.Code.InlineExpansion
import Peg.Proofs.Code.Lowerable
import Peg.Proofs.Code.Lowered

/-!
# When a grammar has a program

The rules of a program are lowered one by one, and then the checks on programs look at all of them.
The rules have distinct names, as definitions have, and call only each other, so nothing but their
number is left for the checks to find. The numbers of rules that are too many are cut off, and no
program with such numbers passes the checks.
-/

namespace Peg

/-- The calls in a combinator that was lowered from an element come from its references. -/
theorem Element.calls_of_lower {label : String}
    {follow : Reference → Except LoweringError Combinator} {P : RuleId → Prop}
    (hfollow : ∀ {r c}, follow r = .ok c → ∀ id ∈ c.calls, P id) {e : Element} {c : Combinator}
    (h : e.lower label follow = .ok c) : ∀ id ∈ c.calls, P id := by
  induction e generalizing c with
  | text =>
    cases h
    simp [Combinator.calls, Combinator.preorder]
  | regex =>
    simp only [lower] at h
    split at h
    · cases h
      simp [Combinator.calls, Combinator.preorder]
    · cases h
  | number => cases h
  | boolean => cases h
  | reference => exact hfollow h
  | sequence _ left right ihl ihr | choice _ left right ihl ihr =>
    simp only [lower, bind_eq_ok_iff] at h
    obtain ⟨l, hl, r, hr, h⟩ := h
    cases h
    intro id hid
    simp only [Combinator.calls_sequence, Combinator.calls_choice, List.mem_append] at hid
    rcases hid with hid | hid
    · exact ihl hl id hid
    · exact ihr hr id hid
  | optional _ body ih | zeroOrMore _ body ih | oneOrMore _ body ih | not _ body ih =>
    simp only [lower, bind_eq_ok_iff] at h
    obtain ⟨b, hb, h⟩ := h
    cases h
    exact fun id hid => ih hb id (by
      simpa [Combinator.optional, Combinator.zeroOrMore, Combinator.oneOrMore] using hid)
  | marked _ marker body ih =>
    simp only [lower, bind_eq_ok_iff] at h
    obtain ⟨b, hb, h⟩ := h
    cases h
    cases marker <;> exact fun id hid => ih hb id (by simpa [Marker.lower] using hid)

namespace Grammar

variable {g : Grammar} {callable expanding : List Nat} {budget root : Nat} {a : Analysis}
  {d : Definition} {r : Reference} {c : Combinator}

/-- The numbers of called rules are those of places, whether they were cut off or not. -/
theorem calls_lt_of_lowerReference (h : g.lowerReference callable budget expanding r = .ok c) :
    ∀ id ∈ c.calls, id.index < callable.length := by
  induction budget generalizing expanding r c with
  | zero => cases h
  | succ budget ih =>
    simp only [lowerReference] at h
    split at h
    · cases h
    · split at h
      · cases h
      · split at h
        next place hplace =>
          cases h
          obtain ⟨hlt, _⟩ := List.idxOf?_eq_some_iff.mp hplace
          have hcut : place % 65536 ≤ place := Nat.mod_le place 65536
          intro id hid
          obtain rfl := List.mem_singleton.mp hid
          exact Nat.lt_of_le_of_lt hcut hlt
        · split at h
          · cases h
          · exact Element.calls_of_lower ih h

/-- Lowering a reference does not fail for a reason that concerns the whole program. -/
theorem lowerReference_ne_program {cause : ProgramError} :
    g.lowerReference callable budget expanding r ≠ .error (.program cause) := by
  induction budget generalizing expanding r with
  | zero => simp [lowerReference]
  | succ budget ih =>
    intro h
    simp only [lowerReference] at h
    split at h
    · cases h
    · split at h
      · cases h
      · split at h
        · cases h
        · split at h
          · cases h
          · obtain ⟨_, _, herror⟩ := Element.exists_reference_of_lower rfl h
            exact ih herror

/-- Lowering a rule does not fail for a reason that concerns the whole program. -/
theorem lowerRule_ne_program {cause : ProgramError} :
    g.lowerRule a root d ≠ .error (.program cause) := by
  intro h
  simp only [lowerRule, bind_eq_error_iff] at h
  rcases h with hbody | ⟨_, _, h⟩
  · obtain ⟨_, _, herror⟩ := Element.exists_reference_of_lower rfl hbody
    exact lowerReference_ne_program herror
  · cases h

/-- A rule is lowered exactly if the budget of a whole grammar is enough for it. -/
theorem exists_lowerRule_iff :
    (∃ rule, g.lowerRule a root d = .ok rule) ↔ g.CanLower a.callable (g.size + 1) [] d := by
  simp only [lowerRule, exists_bind_eq_ok_iff, CanLower]
  constructor
  · rintro ⟨body, hbody, _⟩
    exact ⟨body, hbody⟩
  · rintro ⟨body, hbody⟩
    exact ⟨body, hbody, _, rfl⟩

/-- A rule has the name of its definition, and it calls existing rules only. -/
theorem spec_lowerRule {rule : Rule} (h : g.lowerRule a root d = .ok rule) :
    rule.name = d.name ∧ ∀ id ∈ rule.body.calls, id.index < a.callable.length := by
  simp only [lowerRule, bind_eq_ok_iff] at h
  obtain ⟨body, hbody, h⟩ := h
  cases h
  exact ⟨rfl, Element.calls_of_lower calls_lt_of_lowerReference hbody⟩

/-- The names of definitions with distinct numbers are distinct. -/
theorem nodup_names {ids : List Nat} (hids : ids.Nodup) :
    ((ids.filterMap g.get?).map Definition.name).Nodup := by
  have hdefinitions : (ids.filterMap g.get?).Nodup := by
    refine hids.filterMap fun id id' d hd hd' => ?_
    exact (id_of_get? hd).symm.trans (id_of_get? hd')
  refine hdefinitions.map_on fun d hd t ht hname => ?_
  obtain ⟨_, _, hd⟩ := List.mem_filterMap.mp hd
  obtain ⟨_, _, ht⟩ := List.mem_filterMap.mp ht
  exact eq_of_name_eq (mem_of_get? hd) (mem_of_get? ht) hname

/-- Of the rules that the parser calls, the checks on programs find at most that there are too
many. -/
theorem defect?_of_lowerRule (hroot : root < g.size) (ha : a.callable = g.callableRules root)
    {rules : List Rule}
    (hrules : (a.callable.filterMap g.get?).mapM (g.lowerRule a root) = .ok rules) :
    Program.defect? rules (.ofPlace ((a.callable.idxOf? root).getD 0)) =
      if maxRules < a.callable.length then some (.tooManyRules a.callable.length) else none := by
  have hids : ∀ id ∈ a.callable, id < g.size := by
    rw [ha]
    exact fun id => lt_size_of_mem_callableRules hroot
  have hlength : rules.length = a.callable.length := by
    rw [length_of_mapM_eq_ok hrules, length_filterMap_get? hids]
  have hnodup : a.callable.Nodup := ha ▸ nodup_callableRules hroot
  have hdistinct : (rules.map Rule.name).Nodup := by
    rw [map_eq_map_of_mapM_eq_ok (fun h => (spec_lowerRule h).1) hrules]
    exact nodup_names hnodup
  have hcalls : ∀ rule ∈ rules, ∀ id ∈ rule.body.calls, id.index < rules.length := by
    intro rule hrule
    obtain ⟨d, _, hd⟩ := exists_mem_of_mem_of_mapM_eq_ok hrules hrule
    rw [hlength]
    exact (spec_lowerRule hd).2
  obtain ⟨rest, hrest⟩ := exists_callableRules_eq_cons g root
  have hfirst : a.callable.idxOf? root = some 0 := by simp [ha, hrest, List.idxOf?_cons]
  have hentry : (RuleId.ofPlace ((a.callable.idxOf? root).getD 0)).index < rules.length := by
    rw [hlength, hfirst, ha, hrest]
    simp [RuleId.ofPlace]
  rw [Program.defect?_of_distinct hdistinct hcalls hentry, hlength]

/-- A program has one rule for each definition that the parser calls, in the same order. It starts
at the root, and wherever a call stands for a reference, the called rule has the name that is
referred to. -/
structure LoweredTo (g : Grammar) (callable : List Nat) (root : Definition) (program : Program) :
    Prop where
  entry : program.entry = ⟨0⟩ ∧ callable[0]? = some root.id
  length : program.rules.length = callable.length
  rule : ∀ {index id}, callable[index]? = some id → ∃ d rule, g.get? id = some d ∧
    program.rule? ⟨index⟩ = some rule ∧ rule.name = d.name ∧ g.Lowers callable d.body rule.body
  call : ∀ {span name index}, g.LowersHead callable (.reference span name) (.call ⟨index⟩) →
    ∃ rule, program.rule? ⟨index⟩ = some rule ∧ rule.name = name

/-- A program that lowering returns is one the grammar lowers to. -/
theorem loweredTo_of_lower {root : String} {program : Program} (hroot : g.rule? root = some d)
    (h : g.lower (g.analyze (some root)).1 = .ok program) :
    g.LoweredTo (g.analyze (some root)).1.callable d program := by
  have hlt : d.id < g.size := id_lt_size (mem_of_rule? hroot)
  obtain ⟨hrules, hentry, hcount⟩ := mapM_lowerRule_of_lower hroot h
  obtain ⟨rest, hrest⟩ := exists_callableRules_eq_cons g d.id
  have hrule : ∀ {index id}, (g.callableRules d.id)[index]? = some id → ∃ e rule,
      g.get? id = some e ∧ program.rule? ⟨index⟩ = some rule ∧ rule.name = e.name ∧
        g.Lowers (g.callableRules d.id) e.body rule.body := by
    intro index id hindex
    have hid := lt_size_of_mem_callableRules hlt (List.mem_of_getElem? hindex)
    obtain ⟨e, hget⟩ : ∃ e, g.get? id = some e := ⟨_, List.getElem?_eq_getElem hid⟩
    obtain rfl := id_of_get? hget
    obtain ⟨rule, hfound, hname, hbody⟩ := exists_rule_of_lower hroot h (mem_of_get? hget) hindex
    exact ⟨_, rule, hget, hfound, hname, lowers_of_lower (lowers_of_lowerReference hcount) hbody⟩
  rw [(analyze_of_rule? hroot).2]
  refine ⟨⟨?_, ?_⟩, ?_, hrule, ?_⟩
  · rw [hentry, hrest]
    simp [List.idxOf?_cons, RuleId.ofPlace]
  · rw [hrest]
    rfl
  · rw [length_of_mapM_eq_ok hrules,
      length_filterMap_get? fun id => lt_size_of_mem_callableRules hlt]
  · intro span name index hhead
    cases hhead with
    | call hfind hindex =>
      obtain ⟨e, rule, hget, hfound, hname, _⟩ := hrule hindex
      cases hget.symm.trans (get?_id (mem_of_find? hfind))
      exact ⟨rule, hfound, hname.trans (name_of_find? hfind)⟩

/-- The rules that the parser calls can all be lowered just if everything can be expanded. -/
theorem exists_mapM_lowerRule_iff (hroot : root < g.size) (ha : a.callable = g.callableRules root) :
    (∃ rules, (a.callable.filterMap g.get?).mapM (g.lowerRule a root) = .ok rules) ↔
      g.Expandable a.callable := by
  rw [exists_mapM_eq_ok_iff, ha, ← canLower_callableRules_iff hroot]
  simp only [exists_lowerRule_iff, ha]
  constructor
  · intro hcalled e he hcall
    exact hcalled e (List.mem_filterMap.mpr ⟨e.id, hcall, get?_id he⟩)
  · intro hcalled e he
    obtain ⟨id, hid, hget⟩ := List.mem_filterMap.mp he
    obtain rfl := id_of_get? hget
    exact hcalled e (mem_of_get? hget) hid

/-- For a root that is a rule, there is a program just if everything that goes into the parser can
be expanded and there are not too many rules. The program has the rules that it should have, and the
checks on programs never find anything but too many rules. -/
theorem lower_exact {root : String} (hroot : g.rule? root = some d) :
    ((∃ program, g.lower (g.analyze (some root)).1 = .ok program) ↔
        g.Expandable (g.analyze (some root)).1.callable ∧
          (g.analyze (some root)).1.callable.length ≤ maxRules) ∧
      (∀ program, g.lower (g.analyze (some root)).1 = .ok program →
        g.LoweredTo (g.analyze (some root)).1.callable d program) ∧
      ∀ cause, g.lower (g.analyze (some root)).1 = .error (.program cause) →
        cause = .tooManyRules (g.analyze (some root)).1.callable.length := by
  have hlt : d.id < g.size := id_lt_size (mem_of_rule? hroot)
  obtain ⟨hanalyzed, hcallable⟩ := analyze_of_rule? hroot
  refine ⟨⟨?_, ?_⟩, fun program => loweredTo_of_lower hroot, ?_⟩
  · rintro ⟨program, h⟩
    obtain ⟨hrules, _, hcount⟩ := mapM_lowerRule_of_lower hroot h
    rw [← hcallable] at hrules hcount
    exact ⟨(exists_mapM_lowerRule_iff hlt hcallable).mp ⟨_, hrules⟩, hcount⟩
  · rintro ⟨hexpandable, hcount⟩
    obtain ⟨rules, hrules⟩ := (exists_mapM_lowerRule_iff hlt hcallable).mpr hexpandable
    have hdefect := defect?_of_lowerRule hlt hcallable hrules
    rw [if_neg (Nat.not_lt_of_le hcount), ← Program.exists_ofRules_eq_ok_iff] at hdefect
    obtain ⟨program, hprogram⟩ := hdefect
    refine ⟨program, ?_⟩
    simp only [lower, hanalyzed, hrules, ok_bind, hprogram]
    rfl
  · intro cause h
    simp only [lower, hanalyzed, bind_eq_error_iff] at h
    rcases h with hrules | ⟨rules, hrules, h⟩
    · obtain ⟨e, _, herror⟩ := exists_mem_of_mapM_eq_error hrules
      exact absurd herror lowerRule_ne_program
    · split at h
      · cases h
      next found hfound =>
        cases h
        have hdefect := Program.ofRules_eq_error_iff.mp hfound
        rw [defect?_of_lowerRule hlt hcallable hrules] at hdefect
        split at hdefect
        · cases hdefect
          rfl
        · cases hdefect

/-- Two inline definitions go into the rule for `S` if the second one ends in a text. If the second
one refers to the first one then there is no program. -/
theorem inlinePair_lowers :
    ((inlinePair (.text ⟨12, 13⟩ "a")).rule? "S" =
        some (inlinePair (.text ⟨12, 13⟩ "a")).definitions[0] ∧
      (inlinePair (.text ⟨12, 13⟩ "a")).Expandable [0] ∧
      ∃ program, (inlinePair (.text ⟨12, 13⟩ "a")).lower
          ((inlinePair (.text ⟨12, 13⟩ "a")).analyze (some "S")).1 = .ok program ∧
        (inlinePair (.text ⟨12, 13⟩ "a")).LoweredTo [0]
          (inlinePair (.text ⟨12, 13⟩ "a")).definitions[0] program) ∧
      ¬ ∃ program, (inlinePair (.reference ⟨12, 13⟩ "A")).lower
          ((inlinePair (.reference ⟨12, 13⟩ "A")).analyze (some "S")).1 = .ok program := by
  constructor
  · have hroot : (inlinePair (.text ⟨12, 13⟩ "a")).rule? "S" =
        some (inlinePair (.text ⟨12, 13⟩ "a")).definitions[0] := rfl
    obtain ⟨hiff, hlowered, _⟩ := lower_exact hroot
    have hprogram : (inlinePair (.text ⟨12, 13⟩ "a")).lower
        ((inlinePair (.text ⟨12, 13⟩ "a")).analyze (some "S")).1 =
          .ok ⟨[⟨"S", .literal "a", true⟩], ⟨0⟩, by decide⟩ := rfl
    exact ⟨hroot, (hiff.mp ⟨_, hprogram⟩).1, _, hprogram, hlowered _ hprogram⟩
  · intro hexists
    let g := inlinePair (.reference ⟨12, 13⟩ "A")
    have hroot : g.rule? "S" = some g.definitions[0] := rfl
    have hexpandable : g.Expandable [0] := ((lower_exact hroot).1.mp hexists).1
    have hstart : g.Splices [0] g.definitions[0] g.definitions[1] :=
      ⟨rfl, rfl, by decide, ⟨4, 5⟩, ⟨"A", ⟨4, 5⟩⟩, List.mem_cons_self, rfl, rfl⟩
    have hthere : g.Splices [0] g.definitions[1] g.definitions[2] :=
      ⟨rfl, rfl, by decide, ⟨8, 9⟩, ⟨"B", ⟨8, 9⟩⟩, List.mem_cons_self, rfl, rfl⟩
    have hback : g.Splices [0] g.definitions[2] g.definitions[1] :=
      ⟨rfl, rfl, by decide, ⟨12, 13⟩, ⟨"A", ⟨12, 13⟩⟩, List.mem_cons_self, rfl, rfl⟩
    have hused : g.Used [0] g.definitions[1] :=
      .spliced (.called List.mem_cons_self List.mem_cons_self) hstart
    exact hexpandable.acyclic _ hused (.tail (.single hthere) hback)

end Grammar

end Peg
