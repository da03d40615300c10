import Peg.Program

/-!
# What a program guarantees

The checks on programs leave no call without a rule, and the list of patterns of a program contains
every pattern that one of its rules uses.
-/

namespace Peg

namespace Combinator

/-- A combinator comes before what is in its operands. -/
theorem preorder_eq (c : Combinator) : c.preorder = c :: c.operands.flatMap preorder := by
  cases c <;> simp [preorder, operands]

/-- Everything in an operand is in the combinator. -/
theorem preorder_subset {c d : Combinator} (h : d ∈ c.operands) : d.preorder ⊆ c.preorder := by
  intro part hpart
  rw [c.preorder_eq]
  exact List.mem_cons_of_mem c (List.mem_flatMap.mpr ⟨d, h, hpart⟩)

/-- The rules that a combinator calls are those that its operands call, unless it is a call. -/
theorem calls_eq {c : Combinator} (h : ∀ rule, c ≠ call rule) :
    c.calls = c.operands.flatMap calls := by
  rw [calls, preorder_eq, List.filterMap_cons_none, List.filterMap_flatMap]
  · rfl
  · cases c with
    | call rule => exact absurd rfl (h rule)
    | _ => rfl

/-- A sequence calls what its parts call. -/
@[simp] theorem calls_sequence (left right : Combinator) :
    (sequence left right).calls = left.calls ++ right.calls := by
  simp [calls_eq, operands]

/-- A choice calls what its alternatives call. -/
@[simp] theorem calls_choice (left right : Combinator) :
    (choice left right).calls = left.calls ++ right.calls := by
  simp [calls_eq, operands]

/-- A repetition calls what its body calls. -/
@[simp] theorem calls_repetition (min : Nat) (max : Option Nat) (body : Combinator) :
    (repetition min max body).calls = body.calls := by
  simp [calls_eq, operands]

/-- A lookahead calls what its body calls. -/
@[simp] theorem calls_not (body : Combinator) : body.not.calls = body.calls := by
  simp [calls_eq, operands]

/-- A part without output calls what its body calls. -/
@[simp] theorem calls_drop (body : Combinator) : body.drop.calls = body.calls := by
  simp [calls_eq, operands]

/-- A terminal calls what its body calls. -/
@[simp] theorem calls_terminal (decode : Bool) (body : Combinator) :
    (terminal decode body).calls = body.calls := by
  simp [calls_eq, operands]

/-- A labelled part calls what its body calls. -/
@[simp] theorem calls_errorName (label : String) (promote : Bool) (body : Combinator) :
    (errorName label promote body).calls = body.calls := by
  simp [calls_eq, operands]

/-- A call is the only one in itself. -/
@[simp] theorem calls_call (rule : RuleId) : (call rule).calls = [rule] := rfl

end Combinator

namespace Program

/-- Every rule that a combinator calls exists. -/
def Resolves (p : Program) (c : Combinator) : Prop :=
  ∀ id ∈ c.calls, (p.rule? id).isSome = true

/-- The calls of a sequence resolve just if those of its parts do. -/
@[simp] theorem resolves_sequence {p : Program} {left right : Combinator} :
    p.Resolves (.sequence left right) ↔ p.Resolves left ∧ p.Resolves right := by
  simp [Resolves, or_imp, forall_and]

/-- The calls of a choice resolve just if those of its alternatives do. -/
@[simp] theorem resolves_choice {p : Program} {left right : Combinator} :
    p.Resolves (.choice left right) ↔ p.Resolves left ∧ p.Resolves right := by
  simp [Resolves, or_imp, forall_and]

/-- The calls of a repetition resolve just if those of its body do. -/
@[simp] theorem resolves_repetition {p : Program} {min : Nat} {max : Option Nat}
    {body : Combinator} : p.Resolves (.repetition min max body) ↔ p.Resolves body := by
  simp [Resolves]

/-- The calls of a lookahead resolve just if those of its body do. -/
@[simp] theorem resolves_not {p : Program} {body : Combinator} :
    p.Resolves (.not body) ↔ p.Resolves body := by
  simp [Resolves]

/-- The calls of a part without output resolve just if those of its body do. -/
@[simp] theorem resolves_drop {p : Program} {body : Combinator} :
    p.Resolves (.drop body) ↔ p.Resolves body := by
  simp [Resolves]

/-- The calls of a terminal resolve just if those of its body do. -/
@[simp] theorem resolves_terminal {p : Program} {decode : Bool} {body : Combinator} :
    p.Resolves (.terminal decode body) ↔ p.Resolves body := by
  simp [Resolves]

/-- The calls of a labelled part resolve just if those of its body do. -/
@[simp] theorem resolves_errorName {p : Program} {label : String} {promote : Bool}
    {body : Combinator} : p.Resolves (.errorName label promote body) ↔ p.Resolves body := by
  simp [Resolves]

/-- Without a defect, no rule calls beyond the number of rules. -/
theorem calls_lt_of_ruleDefect?_eq_none {count : Nat} {names : Text.TextSet} {rules : List Rule}
    (h : ruleDefect? count names rules = none) :
    ∀ rule ∈ rules, ∀ id ∈ rule.body.calls, id.index < count := by
  induction rules generalizing names with
  | nil => simp
  | cons first rules ih =>
    simp only [ruleDefect?] at h
    split at h
    · cases h
    split at h
    · cases h
    next hcalls =>
      intro rule hrule id hid
      rcases List.mem_cons.mp hrule with rfl | hrule
      · have hbound := List.find?_eq_none.mp hcalls id hid
        simpa using hbound
      · exact ih h rule hrule id hid

/-- The entry of a program is one of its rules, and its rules are checked one by one. -/
theorem defect?_eq_none {rules : List Rule} {entry : RuleId} (h : defect? rules entry = none) :
    entry.index < rules.length ∧ ruleDefect? rules.length .empty rules = none := by
  simp only [defect?] at h
  split at h
  · cases h
  split at h
  · cases h
  split at h
  · cases h
  next hentry => exact ⟨Nat.lt_of_not_le hentry, h⟩

/-- Rules whose names are new and distinct, and which call no rule that does not exist, have no
defect. -/
theorem ruleDefect?_eq_none {count : Nat} {names : Text.TextSet} {rules : List Rule}
    (hdistinct : (rules.map Rule.name).Nodup)
    (hnew : ∀ rule ∈ rules, names.contains rule.name = false)
    (hcalls : ∀ rule ∈ rules, ∀ id ∈ rule.body.calls, id.index < count) :
    ruleDefect? count names rules = none := by
  induction rules generalizing names with
  | nil => rfl
  | cons rule rules ih =>
    obtain ⟨hname, hrest⟩ := List.nodup_cons.mp hdistinct
    obtain ⟨hrule, hcallsrest⟩ := List.forall_mem_cons.mp hcalls
    have hnone : (rule.body.calls.find? fun target => count ≤ target.index) = none :=
      List.find?_eq_none.mpr fun id hid => by simpa using hrule id hid
    rw [ruleDefect?, hnew rule List.mem_cons_self, hnone]
    refine ih hrest (fun other hother => ?_) hcallsrest
    have hne : other.name ≠ rule.name := fun heq =>
      hname (heq ▸ List.mem_map_of_mem hother)
    rw [Text.TextSet.contains_insert, hnew other (List.mem_cons_of_mem _ hother)]
    simpa using hne

/-- Such rules make a program if there are not too many of them. -/
theorem defect?_of_distinct {rules : List Rule} {entry : RuleId}
    (hdistinct : (rules.map Rule.name).Nodup)
    (hcalls : ∀ rule ∈ rules, ∀ id ∈ rule.body.calls, id.index < rules.length)
    (hentry : entry.index < rules.length) :
    defect? rules entry =
      if maxRules < rules.length then some (.tooManyRules rules.length) else none := by
  have hne : rules.isEmpty = false := by
    cases rules with
    | nil => cases hentry
    | cons => rfl
  have hnone : ruleDefect? rules.length .empty rules = none :=
    ruleDefect?_eq_none hdistinct (fun rule _ => Text.TextSet.contains_empty rule.name) hcalls
  simp [defect?, hne, Nat.not_le_of_lt hentry, hnone]

/-- Without a defect, the names of the rules are new and distinct. -/
theorem distinct_of_ruleDefect?_eq_none {count : Nat} {names : Text.TextSet} {rules : List Rule}
    (h : ruleDefect? count names rules = none) :
    (∀ rule ∈ rules, names.contains rule.name = false) ∧ (rules.map Rule.name).Nodup := by
  induction rules generalizing names with
  | nil => simp
  | cons first rules ih =>
    simp only [ruleDefect?] at h
    split at h
    · cases h
    next hfirst =>
      split at h
      · cases h
      obtain ⟨hnew, hdistinct⟩ := ih h
      simp only [Text.TextSet.contains_insert, Bool.or_eq_false_iff, beq_eq_false_iff_ne] at hnew
      refine ⟨List.forall_mem_cons.mpr ⟨by simpa using hfirst, fun rule hrule =>
        (hnew rule hrule).2⟩, List.nodup_cons.mpr ⟨?_, hdistinct⟩⟩
      intro hmem
      obtain ⟨rule, hrule, hname⟩ := List.mem_map.mp hmem
      exact (hnew rule hrule).1 hname

/-- The error about a list of rules is its first defect. -/
theorem ofRules_eq_error_iff {rules : List Rule} {entry : RuleId} {cause : ProgramError} :
    ofRules rules entry = .error cause ↔ defect? rules entry = some cause := by
  unfold ofRules
  split
  next e he => simp [he]
  next hnone => simp [hnone]

/-- A list of rules without a defect makes a program. -/
theorem exists_ofRules_eq_ok_iff {rules : List Rule} {entry : RuleId} :
    (∃ program, ofRules rules entry = .ok program) ↔ defect? rules entry = none := by
  unfold ofRules
  split
  next e he => simp [he]
  next hnone => simp [hnone]

/-- There are never more rules than numbers for them. -/
theorem length_le_maxRules (p : Program) : p.rules.length ≤ maxRules := by
  have hsound := p.sound
  simp only [defect?] at hsound
  split at hsound
  · cases hsound
  split at hsound
  · cases hsound
  next hcount => exact Nat.le_of_not_lt hcount

/-- The entry rule exists. -/
theorem isSome_rule?_entry (p : Program) : (p.rule? p.entry).isSome = true := by
  have hentry := (defect?_eq_none p.sound).1
  simpa [rule?] using hentry

/-- No rule of a program calls a rule that does not exist. -/
theorem resolves_body {p : Program} {id : RuleId} {rule : Rule} (h : p.rule? id = some rule) :
    p.Resolves rule.body := by
  intro target htarget
  have hrule : rule ∈ p.rules := List.mem_of_getElem? h
  have hlt := calls_lt_of_ruleDefect?_eq_none (defect?_eq_none p.sound).2 rule hrule target htarget
  simpa [rule?] using hlt

/-- A pattern of a rule is a pattern of the program. -/
theorem mem_patterns {p : Program} {id : RuleId} {rule : Rule} (h : p.rule? id = some rule)
    {pattern : String × Nat} (hpattern : pattern ∈ rule.body.patterns) :
    pattern ∈ p.patterns := by
  have hrule : rule ∈ p.rules := List.mem_of_getElem? h
  rw [patterns, List.mem_eraseDups]
  exact List.mem_flatMap.mpr ⟨rule, hrule, hpattern⟩

end Program

end Peg
