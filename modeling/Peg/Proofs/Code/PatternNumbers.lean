import Mathlib.Data.List.Induction
import Peg.Proofs.Code.Recovered
import Peg.Proofs.Except
import Peg.Proofs.Parse.PatternTable

/-!
# Patterns have the same numbers everywhere

A pattern table gives every pattern one number and never changes it, whatever is added later and
whether or not it can be compiled. So the numbers are those of first use, and a program that is run
directly refers to a pattern by the same number as the code that is generated for it.
-/

namespace Peg

/-- Without its later repetitions, a list has no repetitions. -/
theorem nodup_eraseDups {α : Type} [BEq α] [LawfulBEq α] (l : List α) : l.eraseDups.Nodup := by
  induction l using List.reverseRecOn with
  | nil => exact List.nodup_nil
  | append_singleton l a ih =>
    rw [List.eraseDups_append]
    by_cases ha : a ∈ l
    · have hnone : [a].removeAll l = [] := by simp [List.removeAll, ha]
      simpa [hnone] using ih
    · have hone : [a].removeAll l = [a] := by simp [List.removeAll, ha]
      rw [hone, List.eraseDups_cons, List.filter_nil, List.eraseDups_nil]
      refine List.nodup_append.mpr ⟨ih, List.nodup_singleton a, ?_⟩
      rintro x hx y hy rfl
      rw [List.mem_singleton.mp hy] at hx
      exact ha (List.mem_eraseDups.mp hx)

/-- A list without repetitions stays as it is. -/
theorem eraseDups_eq_self {α : Type} [BEq α] [LawfulBEq α] {l : List α} (h : l.Nodup) :
    l.eraseDups = l := by
  induction l using List.reverseRecOn with
  | nil => rfl
  | append_singleton l a ih =>
    obtain ⟨hl, _, hne⟩ := List.nodup_append.mp h
    have ha : a ∉ l := fun hmem => hne a hmem a List.mem_cons_self rfl
    have hone : [a].removeAll l = [a] := by simp [List.removeAll, ha]
    rw [List.eraseDups_append, ih hl, hone, List.eraseDups_cons, List.filter_nil,
      List.eraseDups_nil]

/-- A later repetition does not count. -/
theorem eraseDups_append_cons_of_mem {α : Type} [BEq α] [LawfulBEq α] {l : List α} {a : α}
    (h : a ∈ l) (rest : List α) : (l ++ a :: rest).eraseDups = (l ++ rest).eraseDups := by
  have hgone : (a :: rest).removeAll l = rest.removeAll l := by simp [List.removeAll, h]
  rw [List.eraseDups_append, List.eraseDups_append, hgone]

namespace PatternTable

variable {t t' : PatternTable} {source : String} {times id : Nat}

/-- Add patterns in order, going on behind errors. The table afterwards, and what was returned for
each pattern. -/
def addAll (t : PatternTable) : List (String × Nat) → PatternTable × List (Except ParseError Nat)
  | [] => (t, [])
  | (source, times) :: patterns =>
    let (t, result) := t.add source times
    let (t, results) := t.addAll patterns
    (t, result :: results)

/-- A pattern that cannot be compiled leaves the table as it is. -/
theorem add_eq_of_error {error : ParseError} (h : (t.add source times).2 = .error error) :
    (t.add source times).1 = t := by
  rcases t.add_cases source times with
    ⟨id, _, hadd⟩ | ⟨_, ⟨cause, _, hadd⟩ | ⟨automaton, _, hadd⟩⟩
  · rw [hadd]
  · rw [hadd]
  · rw [hadd] at h
    cases h

/-- Adding a pattern leaves the entries before it where they are. -/
theorem entries_prefix_add (t : PatternTable) (source : String) (times : Nat) :
    t.entries <+: (t.add source times).1.entries := by
  rcases t.add_cases source times with
    ⟨id, _, hadd⟩ | ⟨_, ⟨cause, _, hadd⟩ | ⟨automaton, _, hadd⟩⟩
  · simp [hadd]
  · simp [hadd]
  · rw [hadd]
    exact List.prefix_append t.entries _

/-- Entering a pattern keeps the index of the table in step with its entries. -/
theorem Indexed.add (h : t.Indexed) (source : String) (times : Nat) :
    (t.add source times).1.Indexed := by
  rcases t.add_cases source times with
    ⟨id, _, hadd⟩ | ⟨hnew, ⟨cause, _, hadd⟩ | ⟨automaton, _, hadd⟩⟩
  · rwa [hadd]
  · rwa [hadd]
  · rw [hadd]
    exact h.append hnew

/-- The number that is returned for a pattern is that of an entry for it. -/
theorem Indexed.pattern_of_add (h : t.Indexed) (hadd : (t.add source times).2 = .ok id) :
    (PatternTable.entry? (t.add source times).1 id).map Entry.pattern = some (source, times) := by
  refine (h.add source times source times id).mp ?_
  rcases t.add_cases source times with
    ⟨found, hfound, heq⟩ | ⟨_, ⟨cause, _, heq⟩ | ⟨automaton, _, heq⟩⟩
  · rw [heq] at hadd ⊢
    cases hadd
    exact hfound
  · rw [heq] at hadd
    cases hadd
  · rw [heq] at hadd ⊢
    cases hadd
    rw [indexOf?_append]
    exact if_pos rfl

/-- An entry keeps its number. -/
theorem entry?_of_prefix (h : t.entries <+: t'.entries) {entry : Entry}
    (hentry : t.entry? id = some entry) : t'.entry? id = some entry := by
  obtain ⟨rest, hrest⟩ := h
  obtain ⟨hlt, _⟩ := List.getElem?_eq_some_iff.mp hentry
  rw [PatternTable.entry?, ← hrest, List.getElem?_append_left hlt]
  exact hentry

/-- Entering patterns leaves the entries that are there in their places. -/
theorem entries_prefix_addAll (t : PatternTable) (patterns : List (String × Nat)) :
    t.entries <+: (t.addAll patterns).1.entries := by
  induction patterns generalizing t with
  | nil => exact List.prefix_rfl
  | cons pattern patterns ih =>
    exact (t.entries_prefix_add pattern.1 pattern.2).trans (ih _)

/-- Entering patterns keeps the index of the table in step with its entries. -/
theorem Indexed.addAll (h : t.Indexed) (patterns : List (String × Nat)) :
    (t.addAll patterns).1.Indexed := by
  induction patterns generalizing t with
  | nil => exact h
  | cons pattern patterns ih => exact ih (h.add pattern.1 pattern.2)

/-- A number that was returned for a pattern belongs to the pattern at the end. -/
theorem Indexed.pattern_of_addAll (h : t.Indexed) {patterns : List (String × Nat)} {k : Nat}
    (hresult : (t.addAll patterns).2[k]? = some (.ok id)) :
    ∃ pattern, patterns[k]? = some pattern ∧
      (PatternTable.entry? (t.addAll patterns).1 id).map Entry.pattern = some pattern := by
  induction patterns generalizing t k with
  | nil => cases hresult
  | cons pattern patterns ih =>
    cases k with
    | zero =>
      have hadd : (t.add pattern.1 pattern.2).2 = .ok id := Option.some.inj hresult
      obtain ⟨entry, hentry, hpattern⟩ := Option.map_eq_some_iff.mp (h.pattern_of_add hadd)
      have hlast := entry?_of_prefix (entries_prefix_addAll _ patterns) hentry
      exact ⟨pattern, rfl, Option.map_eq_some_iff.mpr ⟨entry, hlast, hpattern⟩⟩
    | succ k => exact ih (h.add pattern.1 pattern.2) hresult

/-- Patterns that are added get their numbers in the order of first occurrence. -/
theorem Indexed.map_pattern_internAll {patterns : List (String × Nat)} (h : t.Indexed)
    (hall : t.internAll patterns = .ok t') :
    t'.entries.map Entry.pattern = (t.entries.map Entry.pattern ++ patterns).eraseDups := by
  induction patterns generalizing t with
  | nil =>
    cases hall
    rw [List.append_nil, eraseDups_eq_self h.nodup]
  | cons pattern patterns ih =>
    obtain ⟨source, times⟩ := pattern
    obtain ⟨⟨u, id⟩, hintern, hrest⟩ := bind_eq_ok_iff.mp hall
    rcases intern_entries hintern with ⟨rfl, hindex⟩ | ⟨hnew, automaton, _, rfl⟩
    · have hmem : (source, times) ∈ u.entries.map Entry.pattern :=
        List.mem_of_getElem? (List.getElem?_map.trans ((h source times id).mp hindex))
      rw [ih h hrest, eraseDups_append_cons_of_mem hmem]
    · have hmap : (t.append ⟨source, times, automaton⟩).entries.map Entry.pattern =
          t.entries.map Entry.pattern ++ [(source, times)] := List.map_append
      rw [ih (h.append hnew) hrest, hmap, List.append_assoc, List.singleton_append]

/-- A table of patterns numbers them in the order of first occurrence. -/
theorem indexOf?_of_ofPatterns {patterns : List (String × Nat)} (h : ofPatterns patterns = .ok t)
    (source : String) (times : Nat) :
    t.indexOf? source times = patterns.eraseDups.idxOf? (source, times) := by
  have hmap : t.entries.map Entry.pattern = patterns.eraseDups := by
    simpa [empty] using indexed_empty.map_pattern_internAll h
  have hindexed := (ofPatterns_spec h).1.indexed
  have hnodup : patterns.eraseDups.Nodup := nodup_eraseDups patterns
  refine Option.ext fun id => ?_
  have hget : (t.entry? id).map Entry.pattern = patterns.eraseDups[id]? := by
    rw [← hmap, List.getElem?_map]
    rfl
  rw [hindexed source times id, hget, List.idxOf?_eq_some_iff]
  constructor
  · intro hid
    obtain ⟨hlt, heq⟩ := List.getElem?_eq_some_iff.mp hid
    refine ⟨hlt, heq, fun j hj hsame => ?_⟩
    have hindex := (List.Nodup.getElem_inj_iff hnodup).mp (hsame.trans heq.symm)
    omega
  · rintro ⟨hlt, heq, _⟩
    exact List.getElem?_eq_some_iff.mpr ⟨hlt, heq⟩

end PatternTable

namespace Code

variable {patterns : List (String × Nat)} {functions : List String} {c d : Combinator}

/-- The expression for an operand stands in the expression for the operation. -/
theorem expression_operand (hd : d ∈ c.operands) : ∃ before after,
    expression patterns functions c = before ++ expression patterns functions d ++ after := by
  cases c <;> simp only [Combinator.operands, List.mem_cons, List.not_mem_nil, or_false] at hd
  case sequence left right =>
    rw [expression_sequence]
    rcases hd with rfl | rfl
    · exact ⟨"p.sequence(n, |p, n| ", ", |p, n| " ++ expression patterns functions right ++ ")",
        by simp [← String.toList_inj]⟩
    · exact ⟨"p.sequence(n, |p, n| " ++ expression patterns functions left ++ ", |p, n| ", ")",
        by simp [← String.toList_inj]⟩
  case choice left right =>
    rw [expression_choice]
    rcases hd with rfl | rfl
    · exact ⟨"p.choice(n, |p, n| ", ", |p, n| " ++ expression patterns functions right ++ ")",
        by simp [← String.toList_inj]⟩
    · exact ⟨"p.choice(n, |p, n| " ++ expression patterns functions left ++ ", |p, n| ", ")",
        by simp [← String.toList_inj]⟩
  all_goals
    subst hd
    simp only [expression_repetition, expression_not, expression_drop, expression_terminal,
      expression_errorName, ← String.append_assoc]
    exact ⟨_, _, rfl⟩

/-- The expression for a part of an operation stands in the expression for the operation. -/
theorem expression_part (h : d ∈ c.preorder) : ∃ before after,
    expression patterns functions c = before ++ expression patterns functions d ++ after := by
  induction hlength : (expression patterns functions c).length using Nat.strongRecOn
    generalizing c with
  | _ length ih =>
    rw [Combinator.preorder_eq] at h
    rcases List.mem_cons.mp h with rfl | h
    · exact ⟨"", "", by simp⟩
    · obtain ⟨operand, hoperand, hpart⟩ := List.mem_flatMap.mp h
      obtain ⟨before, after, heq⟩ := expression_operand hoperand
      have hshorter : (expression patterns functions operand).length <
          (expression patterns functions c).length := length_expression_lt hoperand
      obtain ⟨before', after', heq'⟩ := ih _ (hlength ▸ hshorter) hpart rfl
      exact ⟨before ++ before', after' ++ after, by rw [heq, heq']; simp [← String.toList_inj]⟩

/-- A pattern of the program `p` has one number, by which everything refers to it: `i` runs the
program, `m` is the code for it, `f` is a function of the code, and `t` is the table that the code
makes when it runs. -/
structure SharesNumber (p : Program) (i : Interpreter) (m : Module) (f : Function)
    (t : PatternTable) (source : String) (times number : Nat) : Prop where
  /-- The number is the place of the pattern among those of the program. -/
  place : p.patterns.idxOf? (source, times) = some number
  run : ∀ input callee, Interpreter.eval (i.setting input) callee (.pattern source times) =
    Step.pattern (i.setting input) number
  /-- What is written for the pattern, wherever it is used. -/
  written : expression m.patterns m.names (.pattern source times) = s!"p.pattern(n, {number})"
  contained : ∃ before after, f.body = before ++ s!"p.pattern(n, {number})" ++ after
  found : t.indexOf? source times = some number
  entry : (t.entry? number).map PatternTable.Entry.pattern = some (source, times)

/-- A pattern has the same number where the program is run and where its code is run. -/
theorem sharesNumber {i : Interpreter} (conf : Config) {f : Function} {rule : Rule} {name : String}
    {source : String} {times : Nat} (hrule : rule ∈ i.program.rules)
    (hf : f = ⟨name, rule.name, rule.capture, expression i.program.patterns
      (Module.ofProgram i.program conf).names rule.body⟩)
    (hpattern : .pattern source times ∈ rule.body.preorder) :
    ∃ number, SharesNumber i.program i (Module.ofProgram i.program conf) f i.patterns source times
      number := by
  have hmem : (source, times) ∈ i.program.patterns :=
    (Program.admits_body hrule).patterns_mem _ (List.mem_filterMap.mpr ⟨_, hpattern, rfl⟩)
  obtain ⟨number, hplace⟩ := Option.isSome_iff_exists.mp (List.isSome_idxOf?.mpr hmem)
  have hdistinct : i.program.patterns.eraseDups = i.program.patterns :=
    eraseDups_eq_self (nodup_eraseDups _)
  have hfound : i.patterns.indexOf? source times = some number := by
    rw [PatternTable.indexOf?_of_ofPatterns i.compiled, hdistinct, hplace]
  have hwritten (functions : List String) :
      expression i.program.patterns functions (.pattern source times) =
        s!"p.pattern(n, {number})" := by
    rw [expression_pattern, patternIndex, hplace]
    rfl
  refine ⟨number, hplace, fun input callee => ?_, hwritten _, ?_, hfound,
    ((PatternTable.ofPatterns_spec i.compiled).1.indexed source times number).mp hfound⟩
  · have hsetting : (i.setting input).patterns.indexOf? source times = some number := hfound
    funext s node
    rw [Interpreter.eval, hsetting]
  · obtain ⟨before, after, hpart⟩ := expression_part hpattern
    rw [hwritten] at hpart
    exact ⟨before, after, by rw [hf]; exact hpart⟩

/-- However patterns are added to a table, each of them has at most one entry, to which the index
leads, and keeps the number that was returned for it; a pattern that cannot be compiled changes
nothing. If the patterns of a program can be compiled, then each pattern in a rule has the same
number in the program that is run, in the list and in the functions of the code for the program,
and in the table that is made of this list. -/
theorem pattern_numbers_agree :
    (∀ patterns : List (String × Nat),
      (PatternTable.empty.addAll patterns).1.Indexed ∧
      ((PatternTable.empty.addAll patterns).1.entries.map PatternTable.Entry.pattern).Nodup ∧
      ∀ (k id : Nat), (PatternTable.empty.addAll patterns).2[k]? = some (.ok id) →
        ∃ pattern, patterns[k]? = some pattern ∧
          (PatternTable.entry? (PatternTable.empty.addAll patterns).1 id).map
            PatternTable.Entry.pattern = some pattern) ∧
    (∀ (t : PatternTable) (source : String) (times : Nat) (error : ParseError),
      (t.add source times).2 = .error error → (t.add source times).1 = t) ∧
    ∀ (p : Program) (conf : Config) (limit : Nat),
      (∀ pattern ∈ p.patterns, ∃ automaton,
        Regex.compile (PatternTable.repeatedSource pattern.1 pattern.2) = .ok automaton) →
      ∃ i listed t, Interpreter.ofProgram p limit = .ok i ∧
        patterns? (Module.patternLines (Module.ofProgram p conf).patterns) = some listed ∧
        PatternTable.ofPatterns listed = .ok t ∧
        List.Forall₂ (fun rule f => ∀ source times, .pattern source times ∈ rule.body.preorder →
          ∃ number, SharesNumber p i (Module.ofProgram p conf) f t source times number)
          p.rules (Module.ofProgram p conf).functions := by
  refine ⟨fun patterns => ?_, fun t source times error => PatternTable.add_eq_of_error,
    fun p conf limit hcompile => ?_⟩
  · have hindexed := PatternTable.indexed_empty.addAll patterns
    exact ⟨hindexed, hindexed.nodup,
      fun k id => PatternTable.indexed_empty.pattern_of_addAll⟩
  · obtain ⟨t, ht⟩ := PatternTable.exists_ofPatterns_eq_ok_iff.mpr hcompile
    refine ⟨⟨p, t, limit, ht⟩, p.patterns, t, Interpreter.ofProgram_eq_ok ht limit,
      patterns?_patternLines p.patterns, ht, ?_⟩
    refine (Module.forall₂_functions p conf).imp ?_
    rintro rule f ⟨hrule, name, hf⟩ source times hpattern
    exact sharesNumber (i := ⟨p, t, limit, ht⟩) conf hrule hf hpattern

/-- Both patterns of the program have a number, the second one behind the first. -/
theorem codeInTexts_numbers : ∃ i f t, Interpreter.ofProgram codeInTexts 16 = .ok i ∧
    PatternTable.ofPatterns codeInTexts.patterns = .ok t ∧
    f ∈ (Module.ofProgram codeInTexts Config.empty).functions ∧
    SharesNumber codeInTexts i (Module.ofProgram codeInTexts Config.empty) f t "[a-z]" 1 0 ∧
    SharesNumber codeInTexts i (Module.ofProgram codeInTexts Config.empty) f t "[a-z]" 2 1 := by
  have hpatterns : codeInTexts.patterns = [("[a-z]", 1), ("[a-z]", 2)] := by decide
  have hcompile : ∀ pattern ∈ codeInTexts.patterns, ∃ automaton,
      Regex.compile (PatternTable.repeatedSource pattern.1 pattern.2) = .ok automaton := by
    rw [hpatterns]
    exact List.forall_mem_cons.mpr ⟨⟨_, rfl⟩, List.forall_mem_singleton.mpr ⟨_, rfl⟩⟩
  obtain ⟨i, listed, t, hrun, hlisted, htable, hall⟩ :=
    pattern_numbers_agree.2.2 codeInTexts Config.empty 16 hcompile
  obtain rfl := Option.some.inj ((patterns?_patternLines _).symm.trans hlisted)
  obtain ⟨_, _, _, hall, hfunctions⟩ := List.forall₂_cons_left_iff.mp hall
  obtain ⟨f, _, hnumbers, _, hlast⟩ := List.forall₂_cons_left_iff.mp hall
  have hf : f ∈ (Module.ofProgram codeInTexts Config.empty).functions := by
    rw [hfunctions, hlast]
    exact List.mem_cons_of_mem _ List.mem_cons_self
  have hplaces : codeInTexts.patterns.idxOf? ("[a-z]", 1) = some 0 ∧
      codeInTexts.patterns.idxOf? ("[a-z]", 2) = some 1 := by
    rw [hpatterns]
    decide
  obtain ⟨first, hfirst⟩ := hnumbers "[a-z]" 1 (by decide)
  obtain ⟨second, hsecond⟩ := hnumbers "[a-z]" 2 (by decide)
  obtain rfl := Option.some.inj (hfirst.place.symm.trans hplaces.1)
  obtain rfl := Option.some.inj (hsecond.place.symm.trans hplaces.2)
  exact ⟨i, f, t, hrun, htable, hf, hfirst, hsecond⟩

end Code

end Peg
