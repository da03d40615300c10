import Mathlib.Algebra.BigOperators.Group.List.Basic
import Mathlib.Data.List.SplitBy
import Peg.Proofs.Code.Names
import Peg.Proofs.Text.CaseConversion

/-!
# The words of a name in Pascal case

Pascal case has no separators, so that a reader has to tell its words apart by their capitals. A
word that starts with a digit has no capital there and goes to the word in front of it. A capital
that follows a single letter is read as part of a run of capitals, unless a small letter follows it.
All other words of an identifier are found again, and so an identifier keeps its snake case on the
way through Pascal case just if its words have no such neighbours.
-/

namespace Peg.Text

open LetterCase

/-- A word consists of letters and digits. -/
structure IsPlainWord (word : String) : Prop where
  ne_empty : word ≠ ""
  alphanum : ∀ c ∈ word.toList, c.isAlphanum = true

/-- Whether a word is a single letter. -/
def isSingleLetter (word : String) : Bool :=
  word.toList.length = 1 && word.toList.all Char.isAlpha

/-- Whether a word, capitalized, is read as a part of the capitalized word in front of it: it starts
with a digit, or it follows a single letter and has no letter in second place. -/
def runsOn (front word : String) : Bool :=
  word.toList[0]?.any Char.isDigit || isSingleLetter front && !word.toList[1]?.any Char.isAlpha

section Characters

variable {c : Char}

/-- Letters and digits belong to ASCII. -/
theorem toNat_lt_of_isAlphanum (h : c.isAlphanum = true) : c.toNat < 128 :=
  Code.toNat_lt_of_isIdentifierChar (by rw [Code.isIdentifierChar, h, Bool.true_or])

/-- Texts of letters and digits belong to ASCII. -/
theorem allAscii_of_alphanum {cs : List Char} (h : ∀ c ∈ cs, c.isAlphanum = true) : AllAscii cs :=
  fun c hc => toNat_lt_of_isAlphanum (h c hc)

/-- What holds of the letters and digits among the first 128 characters holds of all. -/
theorem forall_alphanum {P : Char → Prop}
    (h : ∀ n < 128, (Char.ofNat n).isAlphanum = true → P (Char.ofNat n))
    (hc : c.isAlphanum = true) : P c :=
  forall_ascii (P := fun c => c.isAlphanum = true → P c) h (toNat_lt_of_isAlphanum hc) hc

/-- A letter or a digit is the one just if it is not the other. -/
theorem isAlpha_eq_not_isDigit (hc : c.isAlphanum = true) : c.isAlpha = !c.isDigit :=
  forall_alphanum (P := fun c => c.isAlpha = !c.isDigit) (by decide +kernel) hc

/-- The first character of a capitalized word, made of `c`, is a capital or a digit. -/
structure IsInitial (c d : Char) : Prop where
  ascii : d.toNat < 128
  lower : d.toLower = c.toLower
  isSeparator : Words.isSeparator d = false
  isLower : LetterCase.isLower d = false
  isUpper : LetterCase.isUpper d = !c.isDigit
  isDigit : d.isDigit = c.isDigit

/-- It can be decided whether a character starts a capitalized word that is made of another one. -/
instance (c d : Char) : Decidable (IsInitial c d) :=
  decidable_of_iff (d.toNat < 128 ∧ d.toLower = c.toLower ∧ Words.isSeparator d = false ∧
    LetterCase.isLower d = false ∧ LetterCase.isUpper d = (!c.isDigit) ∧ d.isDigit = c.isDigit)
    ⟨fun ⟨hascii, hlower, hseparator, hisLower, hisUpper, hdigit⟩ =>
      ⟨hascii, hlower, hseparator, hisLower, hisUpper, hdigit⟩,
    fun h => ⟨h.ascii, h.lower, h.isSeparator, h.isLower, h.isUpper, h.isDigit⟩⟩

/-- The capital of a letter or a digit starts a capitalized word. -/
theorem isInitial_toUpper (hc : c.isAlphanum = true) : IsInitial c c.toUpper :=
  forall_alphanum (P := fun c => IsInitial c c.toUpper) (by decide +kernel) hc

/-- A later character of a capitalized word, made of `c`, is a small letter or a digit. -/
structure IsLater (c d : Char) : Prop where
  isInner : Words.IsInner d
  isLower : LetterCase.isLower d = !c.isDigit
  isDigit : d.isDigit = c.isDigit

/-- It can be decided whether a character stands later in a capitalized word that is made of another
one. -/
instance (c d : Char) : Decidable (IsLater c d) :=
  decidable_of_iff ((Words.isSeparator d = false ∧ LetterCase.isUpper d = false) ∧
    LetterCase.isLower d = (!c.isDigit) ∧ d.isDigit = c.isDigit)
    ⟨fun ⟨hinner, hlower, hdigit⟩ => ⟨hinner, hlower, hdigit⟩,
    fun h => ⟨h.isInner, h.isLower, h.isDigit⟩⟩

/-- The small form of a letter or a digit stands later in a capitalized word. -/
theorem isLater_toLower (hc : c.isAlphanum = true) : IsLater c c.toLower :=
  forall_alphanum (P := fun c => IsLater c c.toLower) (by decide +kernel) hc

end Characters

namespace IsPlainWord

variable {front word : String}

/-- A word belongs to ASCII. -/
theorem allAscii (h : IsPlainWord word) : AllAscii word.toList :=
  allAscii_of_alphanum h.alphanum

/-- A plain word and its capitalized form, character by character. -/
theorem exists_capitalize_eq (h : IsPlainWord word) :
    ∃ c cs, word.toList = c :: cs ∧ c.isAlphanum = true ∧ (∀ d ∈ cs, d.isAlphanum = true) ∧
      (capitalize word).toList = c.toUpper :: cs.map Char.toLower := by
  cases hchars : word.toList with
  | nil => exact absurd (String.toList_eq_nil_iff.mp hchars) h.ne_empty
  | cons c cs =>
    have halphanum := h.alphanum
    rw [hchars] at halphanum
    obtain ⟨hc, hcs⟩ := List.forall_mem_cons.mp halphanum
    exact ⟨c, cs, rfl, hc, hcs, toList_capitalize h.allAscii hchars⟩

/-- A capitalized word belongs to ASCII. -/
theorem allAscii_capitalize (h : IsPlainWord word) : AllAscii (capitalize word).toList := by
  obtain ⟨c, cs, -, hc, hcs, hcapital⟩ := h.exists_capitalize_eq
  rw [hcapital]
  exact List.forall_mem_cons.mpr
    ⟨(isInitial_toUpper hc).ascii, (allAscii_of_alphanum hcs).map_toLower⟩

/-- Capitalizing a word does not change its small letters. -/
theorem lowerText_capitalize (h : IsPlainWord word) :
    lowerText (capitalize word) = lowerText word := by
  obtain ⟨c, cs, hchars, hc, hcs, hcapital⟩ := h.exists_capitalize_eq
  refine String.toList_injective ?_
  rw [toList_lowerText_of_ascii h.allAscii_capitalize, toList_lowerText_of_ascii h.allAscii,
    hcapital, hchars, List.map_cons, List.map_cons, (isInitial_toUpper hc).lower,
    (allAscii_of_alphanum hcs).map_toLower_map_toLower]

/-- Behind a capitalized word a capital starts a new word, unless that word was a single letter and
no small letter follows. -/
theorem startsWord_behind (h : IsPlainWord front) (c : Char) (after : List Char) :
    Words.startsWord (capitalize front).toList.getLast? c after =
      (isUpper c && (!isSingleLetter front || after.head?.any isLower)) := by
  obtain ⟨d, ds, hchars, hd, hds, hcapital⟩ := h.exists_capitalize_eq
  -- The last character is a capital or a digit if it is the only one, and a small letter or a digit
  -- otherwise.
  rcases ds.eq_nil_or_concat' with rfl | ⟨es, e, rfl⟩
  · have hletter : isSingleLetter front = !d.isDigit := by
      simp [isSingleLetter, hchars, isAlpha_eq_not_isDigit hd]
    have hinitial := isInitial_toUpper hd
    simp only [hcapital, hletter, Words.startsWord, List.map_nil, List.getLast?_singleton,
      hinitial.isLower, hinitial.isDigit, hinitial.isUpper]
    cases d.isDigit <;> simp
  · have hletter : isSingleLetter front = false := by simp [isSingleLetter, hchars]
    have hlater := isLater_toLower (hds e (by simp))
    have hlast : (capitalize front).toList.getLast? = some e.toLower := by
      rw [hcapital, List.map_append, ← List.cons_append]
      exact List.getLast?_concat
    simp only [hlast, hletter, Words.startsWord, hlater.isLower, hlater.isDigit]
    cases e.isDigit <;> simp

/-- The rest of a capitalized word goes to the word that its first character belongs to. -/
theorem splitFrom_behind_initial {c : Char} {cs : List Char} (hcs : ∀ d ∈ cs, d.isAlphanum = true)
    (word rest : List Char) :
    Words.splitFrom (some c) (c :: word) (cs.map Char.toLower ++ rest) =
      Words.splitFrom (c :: cs.map Char.toLower).getLast?
        ((c :: cs.map Char.toLower).reverse ++ word) rest := by
  have hinner : ∀ d ∈ cs.map Char.toLower, Words.IsInner d := by
    intro d hd
    obtain ⟨e, he, rfl⟩ := List.mem_map.mp hd
    exact (isLater_toLower (hcs e he)).isInner
  rw [Words.splitFrom_append_of_isInner hinner]
  simp [List.getLast?_cons, Option.or_some]

/-- A capitalized word at the beginning. -/
theorem splitFrom_first (h : IsPlainWord word) (rest : List Char) :
    Words.splitFrom none [] ((capitalize word).toList ++ rest) =
      Words.splitFrom (capitalize word).toList.getLast? (capitalize word).toList.reverse rest := by
  obtain ⟨c, cs, -, hc, hcs, hcapital⟩ := h.exists_capitalize_eq
  rw [hcapital, List.cons_append, Words.splitFrom, (isInitial_toUpper hc).isSeparator]
  simp only [Words.startsWord, Bool.and_false, Bool.false_eq_true, if_false]
  rw [splitFrom_behind_initial hcs, List.append_nil]

/-- A capitalized word behind another one starts a word unless it runs on. -/
theorem splitFrom_next (hfront : IsPlainWord front) (h : IsPlainWord word) (before : List Char)
    {rest : List Char} (hrest : rest.head?.any isLower = false) :
    Words.splitFrom (capitalize front).toList.getLast? before ((capitalize word).toList ++ rest) =
      if runsOn front word then
        Words.splitFrom (capitalize word).toList.getLast?
          ((capitalize word).toList.reverse ++ before) rest
      else
        Words.close before (Words.splitFrom (capitalize word).toList.getLast?
          (capitalize word).toList.reverse rest) := by
  obtain ⟨c, cs, hchars, hc, hcs, hcapital⟩ := h.exists_capitalize_eq
  -- What comes behind a word of one character does not start with a small letter.
  have hsecond : (cs.map Char.toLower ++ rest).head?.any isLower = cs.head?.any Char.isAlpha := by
    cases cs with
    | nil => exact hrest
    | cons d ds =>
      have hd := hcs d List.mem_cons_self
      simp [(isLater_toLower hd).isLower, isAlpha_eq_not_isDigit hd]
  have hstarts : Words.startsWord (capitalize front).toList.getLast? c.toUpper
      (cs.map Char.toLower ++ rest) = !runsOn front word := by
    rw [hfront.startsWord_behind, hsecond, (isInitial_toUpper hc).isUpper, runsOn, hchars]
    simp [List.head?_eq_getElem?]
  rw [hcapital, List.cons_append, Words.splitFrom, (isInitial_toUpper hc).isSeparator, hstarts]
  cases runsOn front word
  · simp [splitFrom_behind_initial hcs]
  · simp [splitFrom_behind_initial hcs]

end IsPlainWord

section Groups

variable {α : Type} {r : α → α → Bool} {l : List α} {groups : List (List α)}

/-- No elements are gathered just if no two neighbours are related. -/
theorem splitBy_eq_map_singleton_iff :
    l.splitBy r = l.map ([·]) ↔ l.IsChain fun a b => r a b = false := by
  have hflatten : (l.map ([·])).flatten = l := by
    rw [← List.flatMap_def, List.flatMap_singleton']
  simp [List.splitBy_eq_iff, List.isChain_map, hflatten]

/-- There are at least as many elements as groups if no group is empty. -/
theorem length_le_length_flatten (hne : [] ∉ groups) :
    groups.length ≤ groups.flatten.length := by
  rw [List.length_flatten, ← List.length_map (f := List.length)]
  refine List.length_le_sum_of_one_le _ fun n hn => ?_
  obtain ⟨group, hgroup, rfl⟩ := List.mem_map.mp hn
  exact List.length_pos_iff.mpr (ne_of_mem_of_not_mem hgroup hne)

/-- Groups that are as many as their elements have one element each. -/
theorem eq_map_singleton_of_length_eq (hne : [] ∉ groups)
    (hlength : groups.length = groups.flatten.length) :
    groups = groups.flatten.map ([·]) := by
  induction groups with
  | nil => rfl
  | cons group groups ih =>
    have hgroups : [] ∉ groups := fun hmem => hne (List.mem_cons_of_mem group hmem)
    have hpos : 0 < group.length :=
      List.length_pos_iff.mpr (ne_of_mem_of_not_mem List.mem_cons_self hne)
    have hle := length_le_length_flatten hgroups
    rw [List.flatten_cons, List.length_append, List.length_cons] at hlength
    obtain ⟨a, rfl⟩ := List.length_eq_one_iff.mp (by omega : group.length = 1)
    rw [List.flatten_cons, List.map_append, ← ih hgroups (by omega)]
    rfl

end Groups

/-- The characters of words that are capitalized and put together. -/
def joined (ws : List String) : List Char :=
  (String.join (ws.map capitalize)).toList

/-- Without words there is nothing to put together. -/
theorem joined_nil : joined [] = [] :=
  rfl

/-- Words in two rows are put together row by row. -/
theorem joined_append (ws vs : List String) : joined (ws ++ vs) = joined ws ++ joined vs := by
  simp [joined]

/-- A single word is only capitalized. -/
theorem joined_singleton (w : String) : joined [w] = (capitalize w).toList := by
  simp [joined]

/-- The first word comes first. -/
theorem joined_cons (w : String) (ws : List String) :
    joined (w :: ws) = (capitalize w).toList ++ joined ws := by
  simp [joined]

/-- Something is put together if there is a word. -/
theorem joined_ne_nil {w : String} {ws : List String} (hw : IsPlainWord w) (hmem : w ∈ ws) :
    joined ws ≠ [] := by
  obtain ⟨vs, us, rfl⟩ := List.append_of_mem hmem
  obtain ⟨c, cs, -, -, -, hcapital⟩ := hw.exists_capitalize_eq
  simp [joined_append, joined_cons, hcapital]

/-- What is put together does not start with a small letter. -/
theorem isLower_head_joined {ws : List String} (h : ∀ w ∈ ws, IsPlainWord w) :
    (joined ws).head?.any isLower = false := by
  cases ws with
  | nil => rfl
  | cons w ws =>
    obtain ⟨c, cs, -, hc, -, hcapital⟩ := (h w List.mem_cons_self).exists_capitalize_eq
    rw [joined_cons, hcapital]
    exact (isInitial_toUpper hc).isLower

/-- The words behind a word `w` are gathered in the same groups whether they are compared as words
or read from their capitalized forms. Here `group` holds the words in front of `w` that it is read
together with, and `groups` the groups that are complete, both in reverse order. -/
theorem splitFrom_joined {w : String} {ws : List String} (h : ∀ v ∈ w :: ws, IsPlainWord v)
    (group : List String) (groups : List (List String)) :
    groups.reverse.map joined ++
        Words.splitFrom (capitalize w).toList.getLast? (joined (w :: group).reverse).reverse
          (joined ws) =
      (List.splitBy.loop runsOn ws w group groups).map joined := by
  induction ws generalizing w group groups with
  | nil =>
    have hne : joined (w :: group).reverse ≠ [] :=
      joined_ne_nil (h w List.mem_cons_self) (by simp)
    rw [joined_nil, Words.splitFrom, Words.close_reverse hne, List.splitBy.loop]
    simp
  | cons v ws ih =>
    obtain ⟨hw, hws⟩ := List.forall_mem_cons.mp h
    obtain ⟨hv, hws'⟩ := List.forall_mem_cons.mp hws
    have hnext := hw.splitFrom_next hv (joined (w :: group).reverse).reverse
      (isLower_head_joined hws')
    rw [joined_cons, hnext, List.splitBy.loop]
    cases runsOn w v with
    | true =>
      have hgroup : (capitalize v).toList.reverse ++ (joined (w :: group).reverse).reverse =
          (joined (v :: w :: group).reverse).reverse := by
        rw [List.reverse_cons (a := v), joined_append, joined_singleton, List.reverse_append]
      rw [if_pos rfl, hgroup]
      exact ih hws (w :: group) groups
    | false =>
      have hne : joined (w :: group).reverse ≠ [] := joined_ne_nil hw (by simp)
      rw [if_neg Bool.false_ne_true, Words.close_reverse hne,
        ← ih hws [] ((w :: group).reverse :: groups)]
      simp [joined_singleton]

/-- The words of a plain name consist of letters and digits. -/
theorem isPlainWord_of_mem_words {name word : String} (h : Code.IsPlain name)
    (hword : word ∈ words name) : IsPlainWord word where
  ne_empty := ne_empty_of_mem_words hword
  alphanum c hc := by
    have hmem := Words.mem_of_mem_splitFrom (exists_of_mem_words hword) hc
    obtain ⟨hname, hseparator⟩ := hmem.resolve_left List.not_mem_nil
    rcases Bool.or_eq_true_iff.mp (h c hname) with halphanum | hunderscore
    · exact halphanum
    · obtain rfl := of_decide_eq_true hunderscore
      cases hseparator

/-- The words of a name in Pascal case are those of the name, capitalized, each together with the
words behind it that run on. -/
theorem words_pascalCase {name : String} (h : Code.IsPlain name) :
    words (pascalCase name) =
      ((words name).splitBy runsOn).map fun ws => String.join (ws.map capitalize) := by
  have hplain : ∀ w ∈ words name, IsPlainWord w := fun w hw => isPlainWord_of_mem_words h hw
  have hgroups : Words.splitFrom none [] (joined (words name)) =
      ((words name).splitBy runsOn).map joined := by
    cases hwords : words name with
    | nil => rfl
    | cons w ws =>
      rw [hwords] at hplain
      have hrest := splitFrom_joined hplain [] []
      rw [joined_cons, (hplain w List.mem_cons_self).splitFrom_first, List.splitBy, ← hrest]
      simp [joined_singleton]
  have hchars : (pascalCase name).toList = joined (words name) := rfl
  rw [words, hchars, hgroups, List.map_map]
  exact List.map_congr_left fun ws _ => String.ofList_toList

/-- In Pascal case a plain name belongs to ASCII. -/
theorem allAscii_pascalCase {name : String} (h : Code.IsPlain name) :
    AllAscii (pascalCase name).toList := by
  intro c hc
  rw [pascalCase, String.toList_join, List.flatMap_map] at hc
  obtain ⟨w, hw, hmem⟩ := List.mem_flatMap.mp hc
  exact (isPlainWord_of_mem_words h hw).allAscii_capitalize c hmem

/-- The words of the Pascal case of an identifier are those of the identifier, capitalized, each
together with the words behind it that run on. The identifier keeps its snake case on the way
through Pascal case just if none of its words runs on. -/
theorem pascalCase_keeps_snakeCase_iff {name : String} (h : Code.IsPlain name) :
    words (pascalCase name) =
        ((words name).splitBy runsOn).map (fun ws => String.join (ws.map capitalize)) ∧
      (snakeCase (pascalCase name) = snakeCase name ↔
        (words name).IsChain fun front word => runsOn front word = false) := by
  have hwords := words_pascalCase h
  have hascii : AllAscii name.toList := fun c hc => Code.toNat_lt_of_isIdentifierChar (h c hc)
  refine ⟨hwords, ?_⟩
  rw [← splitBy_eq_map_singleton_iff]
  constructor
  · intro hsnake
    -- A snake case has as many words as the name, so that there are as many groups as words.
    have hlower := congrArg words hsnake
    rw [words_snakeCase (allAscii_pascalCase h), words_snakeCase hascii, hwords] at hlower
    have hlength := congrArg List.length hlower
    simp only [List.length_map] at hlength
    have hgroups := eq_map_singleton_of_length_eq (List.nil_notMem_splitBy runsOn (words name))
    rw [List.flatten_splitBy] at hgroups
    exact hgroups hlength
  · intro hgroups
    have hkept : ∀ w ∈ words name, lowerText (capitalize w) = lowerText w :=
      fun w hw => (isPlainWord_of_mem_words h hw).lowerText_capitalize
    have hcapitals : words (pascalCase name) = (words name).map capitalize := by
      rw [hwords, hgroups, List.map_map]
      exact List.map_congr_left fun w _ => by simp
    rw [snakeCase, hcapitals, List.map_map, snakeCase]
    exact congrArg _ (List.map_congr_left hkept)

/-- Two words of one letter become one run of capitals, which is read as one word. -/
theorem singleLetters_lose_snakeCase :
    Code.IsPlain "a_b" ∧ pascalCase "a_b" = "AB" ∧
      snakeCase (pascalCase "a_b") ≠ snakeCase "a_b" :=
  ⟨by decide, by decide, by decide⟩

/-- A run of capitals, a capital behind a digit and a digit at the end of a word are read as they
were. A digit at the start of a word and the last of two single letters run on. -/
theorem httpHeader_keeps_snakeCase :
    Code.IsPlain "HTTPHeader_v2Id" ∧ Code.IsPlain "vec_2D_x" ∧
      snakeCase (pascalCase "HTTPHeader_v2Id") = snakeCase "HTTPHeader_v2Id" ∧
      words (pascalCase "vec_2D_x") = ["Vec2", "DX"] := by
  have hheader : Code.IsPlain "HTTPHeader_v2Id" := by decide
  have hvec : Code.IsPlain "vec_2D_x" := by decide
  have hwords := (pascalCase_keeps_snakeCase_iff hvec).1
  refine ⟨hheader, hvec, (pascalCase_keeps_snakeCase_iff hheader).2.mpr ?_, hwords.trans ?_⟩
  · decide
  · decide

end Peg.Text
