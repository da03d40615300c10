import Mathlib.Data.List.Nodup
import Peg.Code.Module
import Peg.Proofs.Text.Words

/-!
# Names in generated code are distinct

The names of rules are made distinct before they become identifiers. That leaves them distinct only
if nothing in them has to be replaced, and if none of them is the name that the visitor itself uses.
-/

namespace Peg.Code

open Peg.Text

/-- A name that consists of a base with or without a number behind it. -/
def Numbered (base name : String) : Prop :=
  name = base ∨ ∃ n : Nat, name = s!"{base}_{n}"

/-- A numbered name has digits behind its last underscore. -/
theorem toList_numbered (base : String) (n : Nat) :
    (s!"{base}_{n}").toList = base.toList ++ '_' :: Nat.toDigits 10 n := by
  have hparts : s!"{base}_{n}" = base ++ "_" ++ n.repr := rfl
  rw [hparts, String.toList_append, String.toList_append, Nat.toList_repr]
  simp

/-- Different numbers make different names. -/
theorem numbered_injective {base : String} {m n : Nat} (h : s!"{base}_{m}" = s!"{base}_{n}") :
    m = n := by
  have hchars := congrArg String.toList h
  rw [toList_numbered, toList_numbered, List.append_cancel_left_eq, List.cons_eq_cons] at hchars
  have hnumber := congrArg (fun digits => Nat.ofDigitChars 10 digits 0) hchars.2
  simpa only [Nat.ofDigitChars_toDigits (b := 10) (by decide) (by decide)] using hnumber

/-- Of more numbers than names taken, one makes a name that is free. -/
theorem exists_free_number (taken : List String) (base : String) (start : Nat) :
    ∃ k < taken.length + 1, s!"{base}_{start + k}" ∉ taken := by
  by_contra hnone
  have hsub : (List.range (taken.length + 1)).map (fun k => s!"{base}_{start + k}") ⊆ taken := by
    intro name hname
    obtain ⟨k, hk, rfl⟩ := List.mem_map.mp hname
    by_contra hfree
    exact hnone ⟨k, List.mem_range.mp hk, hfree⟩
  have hdistinct : ((List.range (taken.length + 1)).map
      fun k => s!"{base}_{start + k}").Nodup := by
    refine List.nodup_range.map fun k l h => ?_
    have hsum := numbered_injective h
    omega
  have hlength := hdistinct.length_le_of_subset hsub
  rw [List.length_map, List.length_range] at hlength
  omega

/-- A numbered name is new, and it consists of its base and a number. -/
theorem numberedName_spec (taken : List String) (base : String) (start : Nat) :
    numberedName taken base start ∉ taken ∧ Numbered base (numberedName taken base start) := by
  simp only [numberedName]
  cases hfind : ((List.range (taken.length + 1)).map fun k => s!"{base}_{start + k}").find?
      fun name => !taken.contains name with
  | none =>
    obtain ⟨k, hk, hfree⟩ := exists_free_number taken base start
    have htaken := List.find?_eq_none.mp hfind _ (List.mem_map_of_mem (List.mem_range.mpr hk))
    exact absurd (by simpa using htaken) hfree
  | some name =>
    have hfree := List.find?_some hfind
    obtain ⟨k, _, hname⟩ := List.mem_map.mp (List.mem_of_find?_eq_some hfind)
    exact ⟨by simpa using hfree, Or.inr ⟨start + k, hname.symm⟩⟩

/-- A free name is new, and it consists of its base with or without a number. -/
theorem freeName_spec (taken : List String) (base : String) (start : Nat) :
    freeName taken base start ∉ taken ∧ Numbered base (freeName taken base start) := by
  rw [freeName]
  split
  · exact numberedName_spec taken base start
  next hfree => exact ⟨by simpa using hfree, Or.inl rfl⟩

/-- The names of rules are distinct, and each of them comes from the name of its rule. -/
theorem namesFrom_spec (taken : List String) (index : Nat) (rules : List Rule) :
    (namesFrom taken index rules).Nodup ∧ (∀ name ∈ namesFrom taken index rules, name ∉ taken) ∧
      List.Forall₂ (fun rule name => Numbered (snakeCase rule.name) name) rules
        (namesFrom taken index rules) := by
  induction rules generalizing taken index with
  | nil => exact ⟨.nil, by simp [namesFrom], .nil⟩
  | cons rule rules ih =>
    obtain ⟨hfree, hnumbered⟩ := freeName_spec taken (snakeCase rule.name) index
    obtain ⟨hdistinct, hnew, hrest⟩ :=
      ih (freeName taken (snakeCase rule.name) index :: taken) (index + 1)
    refine ⟨?_, ?_, .cons hnumbered hrest⟩
    · refine List.nodup_cons.mpr ⟨fun hmem => ?_, hdistinct⟩
      exact hnew _ hmem List.mem_cons_self
    · intro name hname
      rcases List.mem_cons.mp hname with rfl | hname
      · exact hfree
      · exact fun htaken => hnew name hname (List.mem_cons_of_mem _ htaken)

section Assigned

variable {p : Program} {rule : Rule} {name : String}

/-- Different rules have different names in the code. -/
theorem nodup_ruleNames (p : Program) : (ruleNames p).Nodup :=
  (namesFrom_spec [] 0 p.rules).1

/-- There is a name for each rule. -/
theorem length_ruleNames (p : Program) : (ruleNames p).length = p.rules.length :=
  (namesFrom_spec [] 0 p.rules).2.2.length_eq.symm

/-- The name beside a rule comes from the name of the rule. -/
theorem numbered_of_mem_zip (h : (rule, name) ∈ p.rules.zip (ruleNames p)) :
    Numbered (snakeCase rule.name) name :=
  List.forall₂_zip (namesFrom_spec [] 0 p.rules).2.2 h

/-- Each of the names belongs to some rule. -/
theorem exists_rule_of_mem_ruleNames (h : name ∈ ruleNames p) :
    ∃ rule, (rule, name) ∈ p.rules.zip (ruleNames p) := by
  have hnames : (p.rules.zip (ruleNames p)).map Prod.snd = ruleNames p :=
    List.map_snd_zip (Nat.le_of_eq (length_ruleNames p))
  rw [← hnames] at h
  obtain ⟨⟨rule, _⟩, hmem, rfl⟩ := List.mem_map.mp h
  exact ⟨rule, hmem⟩

end Assigned

/-- Every character of a text may occur in an identifier. -/
def IsPlain (text : String) : Prop :=
  ∀ c ∈ text.toList, isIdentifierChar c = true

/-- It can be decided whether all characters of a text may occur in an identifier. -/
instance (text : String) : Decidable (IsPlain text) :=
  List.decidableBAll _ text.toList

/-- The characters of identifiers belong to ASCII. -/
theorem toNat_lt_of_isIdentifierChar {c : Char} (h : isIdentifierChar c = true) :
    c.toNat < 128 := by
  have hlast : ∀ last : Char, c.val ≤ last.val → last.toNat < 128 → c.toNat < 128 :=
    fun _ hle => Nat.lt_of_le_of_lt (UInt32.le_iff_toNat_le.mp hle)
  rcases Bool.or_eq_true_iff.mp h with halphanum | hunderscore
  · rcases Bool.or_eq_true_iff.mp halphanum with halpha | hdigit
    · rcases Bool.or_eq_true_iff.mp halpha with hupper | hlower
      · exact hlast 'Z' (of_decide_eq_true hupper).2 (by decide)
      · exact hlast 'z' (of_decide_eq_true (Bool.and_eq_true_iff.mp hlower).2) (by decide)
    · exact hlast '9' (of_decide_eq_true (Bool.and_eq_true_iff.mp hdigit).2) (by decide)
  · obtain rfl := of_decide_eq_true hunderscore
    decide

/-- The lower-case forms of a character that may occur in an identifier may occur there, too. -/
theorem isIdentifierChar_of_isLowerOf {c d : Char} (hd : isIdentifierChar d = true)
    (h : IsLowerOf c d) : isIdentifierChar c = true := by
  have htable : ∀ n < 128, isIdentifierChar (Char.ofNat n) = true →
      (LetterCase.lower (Char.ofNat n)).all isIdentifierChar = true := by decide
  rcases h with hlower | ⟨rfl, _⟩
  · have hall := forall_ascii (P := fun d => isIdentifierChar d = true →
      (LetterCase.lower d).all isIdentifierChar = true) htable (toNat_lt_of_isIdentifierChar hd)
    exact List.all_eq_true.mp (hall hd) c hlower
  · cases hd

/-- The snake case of a name is plain if the name consists of identifier characters and of those
that separate words. -/
theorem isPlain_snakeCase {name : String}
    (h : ∀ c ∈ name.toList, isIdentifierChar c = true ∨ Words.isSeparator c = true) :
    IsPlain (snakeCase name) := by
  intro c hc
  rcases exists_of_mem_snakeCase hc with rfl | ⟨d, hd, hsep, hlower⟩
  · rfl
  · rcases h d hd with hchar | hsep'
    · exact isIdentifierChar_of_isLowerOf hchar hlower
    · rw [hsep] at hsep'
      cases hsep'

/-- Plain texts in a row make a plain text. -/
theorem IsPlain.append {text text' : String} (h : IsPlain text) (h' : IsPlain text') :
    IsPlain (text ++ text') := by
  intro c hc
  rw [String.toList_append, List.mem_append] at hc
  rcases hc with hc | hc
  · exact h c hc
  · exact h' c hc

/-- A number behind a plain name leaves it plain. -/
theorem Numbered.isPlain {base name : String} (h : Numbered base name) (hbase : IsPlain base) :
    IsPlain name := by
  rcases h with rfl | ⟨n, rfl⟩
  · exact hbase
  · intro c hc
    rw [toList_numbered, List.mem_append, List.mem_cons] at hc
    rcases hc with hc | rfl | hc
    · exact hbase c hc
    · rfl
    · have hdigit := Nat.isDigit_of_mem_toDigits (by decide) (by decide) hc
      simp [isIdentifierChar, Char.isAlphanum, hdigit]

/-- The names in the code are plain if the snake case of the rules is. -/
theorem isPlain_of_mem_ruleNames {p : Program} {name : String}
    (hplain : ∀ rule ∈ p.rules, IsPlain (snakeCase rule.name)) (h : name ∈ ruleNames p) :
    IsPlain name := by
  obtain ⟨rule, hmem⟩ := exists_rule_of_mem_ruleNames h
  exact (numbered_of_mem_zip hmem).isPlain (hplain rule (List.of_mem_zip hmem).1)

/-- A name that does not end in a digit has no number behind it. -/
theorem Numbered.eq_of_getLast? {base name : String} (h : Numbered base name)
    (hlast : name.toList.getLast?.any Char.isDigit = false) : name = base := by
  rcases h with rfl | ⟨n, rfl⟩
  · rfl
  · have hne : Nat.toDigits 10 n ≠ [] := Nat.toDigits_ne_nil
    have hdigit := Nat.isDigit_of_mem_toDigits (by decide) (by decide)
      (List.getLast_mem hne)
    rw [toList_numbered] at hlast
    simp [List.getLast?_cons, List.getLast?_eq_some_getLast hne, hdigit] at hlast

/-- The name with an underscore for every character that cannot occur in an identifier. -/
def underscored (name : String) : String :=
  String.ofList (name.toList.map fun c => if isIdentifierChar c then c else '_')

/-- With underscores for all other characters, a name is plain. -/
theorem isPlain_underscored (name : String) : IsPlain (underscored name) := by
  intro c hc
  rw [underscored, String.toList_ofList] at hc
  obtain ⟨d, _, rfl⟩ := List.mem_map.mp hc
  split
  next hd => exact hd
  · rfl

/-- Nothing has to be replaced in a plain name. -/
theorem underscored_eq {name : String} (h : IsPlain name) : underscored name = name := by
  have hsame : (name.toList.map fun c => if isIdentifierChar c then c else '_') = name.toList := by
    refine (List.map_congr_left fun c hc => ?_).trans (List.map_id _)
    simp [h c hc]
  rw [underscored, hsame, String.ofList_toList]

/-- Underscores replace characters one by one. -/
theorem underscored_append (name name' : String) :
    underscored (name ++ name') = underscored name ++ underscored name' := by
  rw [underscored, String.toList_append, List.map_append, String.ofList_append]
  rfl

/-- A name that does not start with a digit needs no underscore in front. -/
theorem plainIdentifier_eq {name : String} {c : Char} {rest : List Char}
    (h : (underscored name).toList = c :: rest) (hdigit : c.isDigit = false) :
    plainIdentifier name = underscored name := by
  have hchars : (name.toList.map fun c => if isIdentifierChar c then c else '_') = c :: rest := by
    rw [← h, underscored, String.toList_ofList]
  rw [plainIdentifier, underscored, hchars]
  simp [hdigit]

/-- Behind a beginning that identifiers can have and keywords cannot, any name becomes a plain
one. -/
theorem identifier_append {start : String} (hstart : IsPlain start)
    (hfirst : start.toList.head?.any (fun c => !c.isDigit) = true)
    (hwords : ∀ word ∈ keywords ++ pathKeywords, ¬ start.toList <+: word.toList)
    (name : String) : identifier (start ++ name) = start ++ underscored name := by
  have hunderscored : underscored (start ++ name) = start ++ underscored name := by
    rw [underscored_append, underscored_eq hstart]
  have hplain : plainIdentifier (start ++ name) = start ++ underscored name := by
    rw [← hunderscored]
    cases hchars : start.toList with
    | nil => simp [hchars] at hfirst
    | cons c rest =>
      have hdigit : c.isDigit = false := by simpa [hchars] using hfirst
      have hfront : (underscored (start ++ name)).toList =
          c :: (rest ++ (underscored name).toList) := by
        rw [hunderscored, String.toList_append, hchars, List.cons_append]
      exact plainIdentifier_eq hfront hdigit
  have hword : start ++ underscored name ∉ keywords ++ pathKeywords := by
    intro hmem
    refine hwords _ hmem ?_
    rw [String.toList_append]
    exact List.prefix_append _ _
  rw [List.mem_append, not_or] at hword
  simp [identifier, hplain, hword]

/-- A function is named after its rule, with a prefix. -/
theorem functionName_eq (name : String) : functionName name = "parse_" ++ underscored name :=
  identifier_append (by decide) (by decide) (by decide) name

/-- A method is named after its rule, with a prefix. -/
theorem methodName_eq (name : String) : methodName name = "visit_" ++ underscored name :=
  identifier_append (by decide) (by decide) (by decide) name

/-- The name of a function is plain. -/
theorem isPlain_functionName (name : String) : IsPlain (functionName name) := by
  rw [functionName_eq]
  exact IsPlain.append (by decide) (isPlain_underscored name)

/-- The name of a method is plain. -/
theorem isPlain_methodName (name : String) : IsPlain (methodName name) := by
  rw [methodName_eq]
  exact IsPlain.append (by decide) (isPlain_underscored name)

/-- A method for a rule is the visitor's own method only if the rule has its name. -/
theorem eq_children_of_methodName {base name : String} (hname : IsPlain name)
    (hnumbered : Numbered base name) (h : methodName name = "visit_children") :
    base = "children" := by
  have hparts : "visit_" ++ underscored name = "visit_" ++ "children" :=
    (methodName_eq name).symm.trans h
  rw [underscored_eq hname] at hparts
  obtain rfl := (String.append_right_inj "visit_").mp hparts
  exact (hnumbered.eq_of_getLast? (by decide)).symm

/-- Two names with different beginnings are different. -/
theorem append_ne {start name other : String} (h : ¬ start.toList <+: other.toList) :
    start ++ name ≠ other := by
  rintro rfl
  rw [String.toList_append] at h
  exact h (List.prefix_append _ _)

/-- Distinct plain names make distinct functions, other than those that are there in any case. -/
theorem nodup_functionNames {names : List String} (hplain : ∀ name ∈ names, IsPlain name)
    (hdistinct : names.Nodup) : ("parse" :: names.map functionName ++ ["walk"]).Nodup := by
  have hnames : names.map functionName = names.map ("parse_" ++ ·) := by
    refine List.map_congr_left fun name hname => ?_
    rw [functionName_eq, underscored_eq (hplain name hname)]
  have hfree : ∀ other, ¬ "parse_".toList <+: other.toList → other ∉ names.map ("parse_" ++ ·) := by
    intro other hother hmem
    obtain ⟨name, _, heq⟩ := List.mem_map.mp hmem
    exact append_ne hother heq
  have hparse := hfree "parse" (by decide)
  have hwalk := hfree "walk" (by decide)
  have hmap : (names.map ("parse_" ++ ·)).Nodup :=
    hdistinct.map fun name name' heq => (String.append_right_inj "parse_").mp heq
  rw [hnames, List.cons_append, List.nodup_cons, List.nodup_append]
  refine ⟨?_, hmap, by simp, ?_⟩
  · simpa using hparse
  · rintro name hname other hother rfl
    exact hwalk (List.mem_singleton.mp hother ▸ hname)

/-- Distinct plain names make distinct methods. -/
theorem nodup_methodNames {names : List String} (hplain : ∀ name ∈ names, IsPlain name)
    (hdistinct : names.Nodup) : (names.map methodName).Nodup := by
  refine hdistinct.map_on fun name hname name' hname' heq => ?_
  rw [methodName_eq, methodName_eq, underscored_eq (hplain name hname),
    underscored_eq (hplain name' hname')] at heq
  exact (String.append_right_inj "visit_").mp heq

end Peg.Code
