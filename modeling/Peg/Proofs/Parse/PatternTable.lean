import Mathlib.Data.List.Nodup
import Peg.Parse.Interpreter
import Peg.Proofs.Parse.Program

/-!
# What a pattern table holds

A table that was built from patterns has an entry for each of them, to which its index leads, and
every entry holds the automaton of its own pattern. What a pattern matches at an offset of a text
therefore depends on the pattern alone, and not on the table it is looked up in. The table of an
interpreter holds every pattern that a rule of its program uses.
-/

namespace Peg

namespace PatternTable

/-- A pattern with the number of times it is applied in a row. -/
def Entry.pattern (entry : Entry) : String × Nat :=
  (entry.source, entry.times)

/-- The index leads to the entries: a pattern has a number just if the entry with this number is for
the pattern. -/
def Indexed (t : PatternTable) : Prop :=
  ∀ (source : String) (times id : Nat),
    t.indexOf? source times = some id ↔ (t.entry? id).map Entry.pattern = some (source, times)

/-- The index leads to the entries, and every entry holds the automaton of its pattern, repeated as
often as the entry says. -/
structure WellCompiled (t : PatternTable) : Prop where
  indexed : t.Indexed
  compiled : ∀ entry ∈ t.entries,
    Regex.compile (repeatedSource entry.source entry.times) = .ok entry.automaton

variable {t t' : PatternTable} {source : String} {times id : Nat}

/-- A pattern is found at an entry of its own. -/
theorem Indexed.entry?_of_indexOf? (h : t.Indexed) (hid : t.indexOf? source times = some id) :
    ∃ entry, t.entry? id = some entry ∧ entry.source = source ∧ entry.times = times := by
  obtain ⟨entry, hentry, hpattern⟩ := Option.map_eq_some_iff.mp ((h source times id).mp hid)
  obtain ⟨hsource, htimes⟩ := Prod.mk.inj hpattern
  exact ⟨entry, hentry, hsource, htimes⟩

/-- A pattern that has an entry is found. -/
theorem Indexed.isSome_indexOf? (h : t.Indexed) {entry : Entry} (hentry : entry ∈ t.entries) :
    (t.indexOf? entry.source entry.times).isSome = true := by
  obtain ⟨id, hid⟩ := List.getElem?_of_mem hentry
  have hget : t.entry? id = some entry := hid
  exact Option.isSome_iff_exists.mpr ⟨id, (h _ _ id).mpr (by rw [hget]; rfl)⟩

/-- No two entries are for the same pattern. -/
theorem Indexed.nodup (h : t.Indexed) : (t.entries.map Entry.pattern).Nodup := by
  have hindex (id : Nat) (pattern : String × Nat)
      (hid : (t.entries.map Entry.pattern)[id]? = some pattern) :
      t.indexOf? pattern.1 pattern.2 = some id := by
    rw [List.getElem?_map] at hid
    exact (h pattern.1 pattern.2 id).mpr hid
  refine List.nodup_iff_getElem?_ne_getElem?.mpr fun i j hij hj heq => ?_
  have hget := List.getElem?_eq_getElem hj
  have hsame := (hindex i _ (heq.trans hget)).symm.trans (hindex j _ hget)
  exact Nat.ne_of_lt hij (Option.some.inj hsame)

/-- The index of the empty table is in step with its entries. -/
theorem indexed_empty : empty.Indexed := by
  intro source times id
  simp [empty, indexOf?, entry?]

/-- A new entry is found at the end of the table, and every other pattern where it was. -/
theorem indexOf?_append (t : PatternTable) (entry : Entry) (source : String) (times : Nat) :
    (t.append entry).indexOf? source times =
      if entry.pattern = (source, times) then some t.entries.length
      else t.indexOf? source times := by
  rw [append, indexOf?, List.lookup_cons]
  by_cases h : entry.pattern = (source, times)
  · have hbeq : ((source, times) == (entry.source, entry.times)) = true := by
      rw [beq_iff_eq, ← h]
      rfl
    rw [hbeq, if_pos h]
  · have hbeq : ((source, times) == (entry.source, entry.times)) = false :=
      beq_false_of_ne (Ne.symm h)
    rw [hbeq, if_neg h]
    rfl

/-- A table stays indexed when a pattern is added that it did not have. -/
theorem Indexed.append (h : t.Indexed) {entry : Entry}
    (hnew : t.indexOf? entry.source entry.times = none) : (t.append entry).Indexed := by
  intro source times id
  have hentry : entry? (t.append entry) id = (t.entries ++ [entry])[id]? := rfl
  rw [indexOf?_append, hentry]
  by_cases hlt : id < t.entries.length
  · have hold : (t.entries ++ [entry])[id]? = t.entry? id := List.getElem?_append_left hlt
    rw [hold, ← h source times id]
    split
    next heq =>
      obtain ⟨rfl, rfl⟩ := Prod.mk.inj heq
      have hne : t.entries.length ≠ id := by omega
      simp [hne, hnew]
    · rfl
  · have hnone : t.entry? id = none := List.getElem?_eq_none (Nat.le_of_not_lt hlt)
    have hunused : t.indexOf? source times ≠ some id := by
      rw [Ne, h source times id, hnone]
      simp
    by_cases hid : id = t.entries.length
    · subst hid
      have hlast : (t.entries ++ [entry])[t.entries.length]? = some entry := by simp
      rw [hlast]
      split
      next heq => simp [heq]
      next hne => simp [hne, hunused]
    · have hbehind : (t.entries ++ [entry])[id]? = none := by
        refine List.getElem?_eq_none ?_
        simp only [List.length_append, List.length_singleton]
        omega
      rw [hbehind]
      split
      · simp [Ne.symm hid]
      · simp [hunused]

/-- What adding a pattern comes to: it is there already, it cannot be compiled, or it is put behind
the others. -/
theorem add_cases (t : PatternTable) (source : String) (times : Nat) :
    (∃ id, t.indexOf? source times = some id ∧ t.add source times = (t, .ok id)) ∨
      t.indexOf? source times = none ∧
        ((∃ cause, Regex.compile (repeatedSource source times) = .error cause ∧
          t.add source times = (t, .error (.invalidPattern source))) ∨
        ∃ automaton, Regex.compile (repeatedSource source times) = .ok automaton ∧
          t.add source times =
            (t.append ⟨source, times, automaton⟩, .ok t.entries.length)) := by
  rw [add]
  cases hid : t.indexOf? source times with
  | some id => exact Or.inl ⟨id, rfl, rfl⟩
  | none =>
    cases hcompile : Regex.compile (repeatedSource source times) with
    | error cause => exact Or.inr ⟨rfl, Or.inl ⟨cause, rfl, rfl⟩⟩
    | ok automaton => exact Or.inr ⟨rfl, Or.inr ⟨automaton, rfl, rfl⟩⟩

/-- Entries are only ever added, and the pattern that is added gets one. -/
theorem intern_entries (h : t.intern source times = .ok (t', id)) :
    (t' = t ∧ t.indexOf? source times = some id) ∨
      t.indexOf? source times = none ∧
        ∃ automaton, Regex.compile (repeatedSource source times) = .ok automaton ∧
          t' = t.append ⟨source, times, automaton⟩ := by
  rw [intern] at h
  rcases t.add_cases source times with
    ⟨found, hid, hadd⟩ | ⟨hnew, ⟨cause, _, hadd⟩ | ⟨automaton, hcompile, hadd⟩⟩
  · rw [hadd] at h
    cases h
    exact Or.inl ⟨rfl, hid⟩
  · rw [hadd] at h
    cases h
  · rw [hadd] at h
    cases h
    exact Or.inr ⟨hnew, automaton, hcompile, rfl⟩

/-- A pattern is added to a table just as it is compiled on its own. -/
theorem WellCompiled.append (h : t.WellCompiled) {entry : Entry}
    (hnew : t.indexOf? entry.source entry.times = none)
    (hcompile : Regex.compile (repeatedSource entry.source entry.times) = .ok entry.automaton) :
    (t.append entry).WellCompiled where
  indexed := h.indexed.append hnew
  compiled other hother := by
    rcases List.mem_append.mp hother with hold | hlast
    · exact h.compiled other hold
    · rw [List.mem_singleton.mp hlast]
      exact hcompile

/-- Adding patterns keeps what was found before and makes all of the new ones found. -/
theorem internAll_spec {patterns : List (String × Nat)}
    (h : t.internAll patterns = .ok t') (hcompiled : t.WellCompiled) :
    t'.WellCompiled ∧ (∀ entry ∈ t.entries, entry ∈ t'.entries) ∧
      ∀ p ∈ patterns, (t'.indexOf? p.1 p.2).isSome = true := by
  induction patterns generalizing t with
  | nil =>
    cases h
    exact ⟨hcompiled, fun _ hentry => hentry, by simp⟩
  | cons p patterns ih =>
    obtain ⟨source, times⟩ := p
    cases hintern : t.intern source times with
    | error e => simp [internAll, hintern, bind, Except.bind] at h
    | ok next =>
      obtain ⟨u, id⟩ := next
      have hrest : u.internAll patterns = .ok t' := by
        simpa [internAll, hintern, bind, Except.bind] using h
      have hadded : u.WellCompiled ∧ (∀ entry ∈ t.entries, entry ∈ u.entries) ∧
          ∃ entry ∈ u.entries, entry.source = source ∧ entry.times = times := by
        rcases intern_entries hintern with ⟨rfl, hindex⟩ | ⟨hnew, automaton, hcompile, rfl⟩
        · obtain ⟨entry, hentry, heq⟩ := hcompiled.indexed.entry?_of_indexOf? hindex
          exact ⟨hcompiled, fun _ h => h, entry, List.mem_of_getElem? hentry, heq⟩
        · exact ⟨hcompiled.append hnew hcompile, fun entry h => List.mem_append_left _ h, _,
            List.mem_append_right _ (List.mem_singleton.mpr rfl), rfl, rfl⟩
      obtain ⟨hu, hkept, entry, hentry, rfl, rfl⟩ := hadded
      obtain ⟨ht', hmore, hfound⟩ := ih hrest hu
      refine ⟨ht', fun e he => hmore e (hkept e he), ?_⟩
      intro p hp
      rcases List.mem_cons.mp hp with rfl | hp
      · exact ht'.indexed.isSome_indexOf? (hmore entry hentry)
      · exact hfound p hp

/-- A table built from patterns finds each of them, with its own automaton. -/
theorem ofPatterns_spec {patterns : List (String × Nat)} (h : ofPatterns patterns = .ok t) :
    t.WellCompiled ∧ ∀ p ∈ patterns, (t.indexOf? p.1 p.2).isSome = true := by
  have hempty : empty.WellCompiled := ⟨indexed_empty, by simp [empty]⟩
  obtain ⟨hcompiled, _, hfound⟩ := internAll_spec h hempty
  exact ⟨hcompiled, hfound⟩

/-- A pattern that can be compiled can be added. -/
theorem exists_intern_eq_ok (t : PatternTable) {source : String} {times : Nat}
    (h : ∃ automaton, Regex.compile (repeatedSource source times) = .ok automaton) :
    ∃ next, t.intern source times = .ok next := by
  obtain ⟨automaton, h⟩ := h
  rw [intern]
  rcases t.add_cases source times with
    ⟨id, _, hadd⟩ | ⟨_, ⟨cause, herror, _⟩ | ⟨_, _, hadd⟩⟩
  · exact ⟨_, by rw [hadd]; rfl⟩
  · rw [h] at herror
    cases herror
  · exact ⟨_, by rw [hadd]; rfl⟩

/-- There is a table of patterns if every one of them can be compiled. -/
theorem exists_ofPatterns_eq_ok_iff {patterns : List (String × Nat)} :
    (∃ t, ofPatterns patterns = .ok t) ↔
      ∀ p ∈ patterns, ∃ automaton, Regex.compile (repeatedSource p.1 p.2) = .ok automaton := by
  constructor
  · rintro ⟨t, h⟩ p hp
    obtain ⟨hcompiled, hfound⟩ := ofPatterns_spec h
    obtain ⟨id, hid⟩ := Option.isSome_iff_exists.mp (hfound p hp)
    obtain ⟨entry, hentry, hsource, htimes⟩ := hcompiled.indexed.entry?_of_indexOf? hid
    rw [← hsource, ← htimes]
    exact ⟨entry.automaton, hcompiled.compiled entry (List.mem_of_getElem? hentry)⟩
  · intro h
    have hall : ∀ t : PatternTable, ∃ t', t.internAll patterns = .ok t' := by
      induction patterns with
      | nil => exact fun t => ⟨t, rfl⟩
      | cons p patterns ih =>
        intro t
        obtain ⟨hp, hpatterns⟩ := List.forall_mem_cons.mp h
        obtain ⟨next, hnext⟩ := t.exists_intern_eq_ok hp
        obtain ⟨t', ht'⟩ := ih hpatterns next.1
        exact ⟨t', by simpa [internAll, hnext, bind, Except.bind] using ht'⟩
    exact hall empty

/-- A match through the table is a match of the automaton of the entry. -/
theorem matchAt_eq_ok_iff {start : Nat} {text : List Char} {stop? : Option Nat} :
    t.matchAt id text start = .ok stop? ↔
      ∃ entry, t.entry? id = some entry ∧ entry.automaton.matchAt text start = .ok stop? := by
  unfold matchAt
  cases hentry : t.entry? id with
  | none => simp
  | some entry =>
    cases hmatch : entry.automaton.matchAt text start with
    | error refusal => simp [hmatch]
    | ok found => simp [hmatch]

/-- In a table with its own automata, a pattern matches what its own automaton matches. -/
theorem WellCompiled.matchAt_iff (h : t.WellCompiled) {start : Nat} {text : List Char}
    {stop? : Option Nat} (hid : t.indexOf? source times = some id) :
    t.matchAt id text start = .ok stop? ↔
      ∃ automaton, Regex.compile (repeatedSource source times) = .ok automaton ∧
        automaton.matchAt text start = .ok stop? := by
  obtain ⟨entry, hentry, rfl, rfl⟩ := h.indexed.entry?_of_indexOf? hid
  have hcompile := h.compiled entry (List.mem_of_getElem? hentry)
  rw [matchAt_eq_ok_iff, hentry, hcompile]
  simp

/-- Every pattern of a combinator is in the table, with an entry. -/
def Covers (t : PatternTable) (c : Combinator) : Prop :=
  ∀ p ∈ c.patterns, ∃ id, t.indexOf? p.1 p.2 = some id ∧ (t.entry? id).isSome = true

/-- A table that covers a combinator covers its operands. -/
theorem Covers.operand {t : PatternTable} {c d : Combinator} (h : t.Covers c)
    (hd : d ∈ c.operands) : t.Covers d := by
  intro p hp
  obtain ⟨operation, hmem, hpattern⟩ := List.mem_filterMap.mp hp
  exact h p (List.mem_filterMap.mpr ⟨operation, Combinator.preorder_subset hd hmem, hpattern⟩)

/-- A table that covers a body covers every repetition of it. -/
theorem Covers.repetition {t : PatternTable} {body : Combinator} (h : t.Covers body)
    (min : Nat) (max : Option Nat) : t.Covers (.repetition min max body) := by
  simpa [Covers, Combinator.patterns, Combinator.preorder] using h

end PatternTable

namespace Interpreter

/-- A program can be run as soon as its patterns are compiled. -/
theorem ofProgram_eq_ok {program : Program} {patterns : PatternTable}
    (h : PatternTable.ofPatterns program.patterns = .ok patterns) (limit : Nat) :
    ofProgram program limit = .ok ⟨program, patterns, limit, h⟩ := by
  unfold ofProgram
  split
  next found hfound =>
    obtain rfl := Except.ok.inj (h.symm.trans hfound)
    rfl
  next error herror =>
    rw [h] at herror
    cases herror

/-- No parser is made of a program whose patterns cannot be entered. -/
theorem ofProgram_eq_error {program : Program} {error : ParseError}
    (h : PatternTable.ofPatterns program.patterns = .error error) (limit : Nat) :
    ofProgram program limit = .error error := by
  unfold ofProgram
  split
  next found hfound =>
    rw [h] at hfound
    cases hfound
  next error' herror =>
    obtain rfl := Except.error.inj (h.symm.trans herror)
    rfl

/-- A program can be run just if all of its patterns can be compiled. -/
theorem exists_ofProgram_eq_ok_iff {program : Program} {limit : Nat} :
    (∃ i, ofProgram program limit = .ok i) ↔ ∀ p ∈ program.patterns,
      ∃ automaton, Regex.compile (PatternTable.repeatedSource p.1 p.2) = .ok automaton := by
  rw [← PatternTable.exists_ofPatterns_eq_ok_iff]
  cases h : PatternTable.ofPatterns program.patterns with
  | ok patterns => simp [ofProgram_eq_ok h]
  | error error => simp [ofProgram_eq_error h]

/-- The table of an interpreter holds every pattern of its rules. -/
theorem covers_of_mem (i : Interpreter) :
    ∀ rule ∈ i.program.rules, i.patterns.Covers rule.body := by
  intro rule hrule p hp
  obtain ⟨index, hindex⟩ := List.getElem?_of_mem hrule
  have hget : i.program.rule? ⟨index⟩ = some rule := hindex
  obtain ⟨hcompiled, hfound⟩ := PatternTable.ofPatterns_spec i.compiled
  obtain ⟨id, hid⟩ := Option.isSome_iff_exists.mp (hfound p (Program.mem_patterns hget hp))
  obtain ⟨entry, hentry, _⟩ := hcompiled.indexed.entry?_of_indexOf? hid
  exact ⟨id, hid, by simp [hentry]⟩

end Interpreter

end Peg
