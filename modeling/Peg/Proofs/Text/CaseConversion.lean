import Mathlib.Data.List.Basic
import Peg.Proofs.Text.Words

/-!
# Words and case conversion

The words of an identifier are its characters without the separators, cut into pieces. In ASCII a
name in snake case has the words of the original in lower case, because no boundary is left in it
but the underscores. So it is converted as the original is.
-/

namespace Peg.Text

namespace Words

/-- Closing a word keeps its characters in front of those of the other words. -/
theorem flatten_close (word : List Char) (words : List (List Char)) :
    (close word words).flatten = word.reverse ++ words.flatten := by
  rw [close]
  split
  next hempty => simp [List.isEmpty_iff.mp hempty]
  · rfl

/-- Nothing but separators is lost, and nothing is said twice. -/
theorem flatten_splitFrom (before? : Option Char) (word cs : List Char) :
    (splitFrom before? word cs).flatten =
      word.reverse ++ cs.filter fun c => !isSeparator c := by
  induction cs generalizing before? word with
  | nil => simp [splitFrom, flatten_close]
  | cons c cs ih =>
    rw [splitFrom]
    split
    next hsep => simp [flatten_close, ih, hsep]
    next hsep =>
      split
      · simp [flatten_close, ih, hsep]
      · simp [ih, hsep]

/-- Closing a word adds no empty one. -/
theorem ne_nil_or_mem_of_mem_close {word w : List Char} {words : List (List Char)}
    (h : w ∈ close word words) : w ≠ [] ∨ w ∈ words := by
  rw [close] at h
  split at h
  · exact Or.inr h
  next hword =>
    rcases List.mem_cons.mp h with rfl | hmem
    · exact Or.inl (by simpa using hword)
    · exact Or.inr hmem

/-- No word is empty. -/
theorem ne_nil_of_mem_splitFrom {before? : Option Char} {word w cs : List Char}
    (h : w ∈ splitFrom before? word cs) : w ≠ [] := by
  induction cs generalizing before? word with
  | nil => exact (ne_nil_or_mem_of_mem_close h).resolve_right List.not_mem_nil
  | cons c cs ih =>
    rw [splitFrom] at h
    split at h
    · exact (ne_nil_or_mem_of_mem_close h).elim id ih
    · split at h
      · exact (ne_nil_or_mem_of_mem_close h).elim id ih
      · exact ih h

/-- The character neither separates words nor starts one by itself. -/
def IsInner (c : Char) : Prop :=
  isSeparator c = false ∧ LetterCase.isUpper c = false

/-- Inner characters belong to the word that is under way. -/
theorem splitFrom_cons_of_isInner {c : Char} (h : IsInner c) (before? : Option Char)
    (word rest : List Char) :
    splitFrom before? word (c :: rest) = splitFrom (some c) (c :: word) rest := by
  simp [splitFrom, startsWord, h.1, h.2]

/-- Inner characters are added to the word that is under way. -/
theorem splitFrom_append_of_isInner {cs : List Char} (h : ∀ c ∈ cs, IsInner c)
    (before? : Option Char) (word rest : List Char) :
    splitFrom before? word (cs ++ rest) =
      splitFrom (cs.getLast?.or before?) (cs.reverse ++ word) rest := by
  induction cs generalizing before? word with
  | nil => rfl
  | cons c cs ih =>
    obtain ⟨hc, hcs⟩ := List.forall_mem_cons.mp h
    rw [List.cons_append, splitFrom_cons_of_isInner hc, ih hcs]
    simp [List.getLast?_cons, Option.or_some]

/-- Inner characters at the end complete the word that is under way. -/
theorem splitFrom_of_isInner {cs : List Char} (h : ∀ c ∈ cs, IsInner c) (before? : Option Char)
    (word : List Char) : splitFrom before? word cs = close (cs.reverse ++ word) [] := by
  have happend := splitFrom_append_of_isInner h before? word []
  rwa [List.append_nil] at happend

/-- Inner characters in front of an underscore complete the word that is under way. -/
theorem splitFrom_underscore_of_isInner {cs : List Char} (h : ∀ c ∈ cs, IsInner c)
    (before? : Option Char) (word rest : List Char) :
    splitFrom before? word (cs ++ '_' :: rest) =
      close (cs.reverse ++ word) (splitFrom (some '_') [] rest) :=
  splitFrom_append_of_isInner h before? word ('_' :: rest)

/-- A word that is not empty comes in front of the other words when it is closed. -/
theorem close_reverse {w : List Char} (h : w ≠ []) (words : List (List Char)) :
    close w.reverse words = w :: words := by
  simp [close, h]

/-- Words without boundaries inside are found again between underscores. -/
theorem splitFrom_intercalate {ws : List (List Char)} (hne : ∀ w ∈ ws, w ≠ [])
    (hinner : ∀ w ∈ ws, ∀ c ∈ w, IsInner c) (before? : Option Char) :
    splitFrom before? [] (['_'].intercalate ws) = ws := by
  induction ws generalizing before? with
  | nil => rfl
  | cons w ws ih =>
    obtain ⟨hw, hrest⟩ := List.forall_mem_cons.mp hne
    obtain ⟨hwinner, hrestinner⟩ := List.forall_mem_cons.mp hinner
    cases ws with
    | nil =>
      rw [List.intercalate_singleton, splitFrom_of_isInner hwinner, List.append_nil,
        close_reverse hw]
    | cons w' ws =>
      rw [List.intercalate_cons_cons, List.append_assoc, List.singleton_append,
        splitFrom_underscore_of_isInner hwinner, List.append_nil, close_reverse hw,
        ih hrest hrestinner]

end Words

/-- All characters of a list belong to ASCII. -/
def AllAscii (cs : List Char) : Prop :=
  ∀ c ∈ cs, c.toNat < 128

/-- It can be decided whether all characters belong to ASCII. -/
instance (cs : List Char) : Decidable (AllAscii cs) :=
  List.decidableBAll _ cs

section Ascii

open LetterCase

variable {c : Char} {cs : List Char}

/-- In ASCII the lower-case form of a character is a single character. -/
theorem lower_of_ascii (hc : c.toNat < 128) : lower c = [c.toLower] := by
  have hall : ∀ n < 128, lower (Char.ofNat n) = [(Char.ofNat n).toLower] := by decide
  exact forall_ascii (P := fun c => lower c = [c.toLower]) hall hc

/-- In ASCII the capital of a character is a single character. -/
theorem upper_of_ascii (hc : c.toNat < 128) : upper c = [c.toUpper] := by
  have hall : ∀ n < 128, upper (Char.ofNat n) = [(Char.ofNat n).toUpper] := by decide +kernel
  exact forall_ascii (P := fun c => upper c = [c.toUpper]) hall hc

/-- The lower-case form of a character is ASCII and its own lower-case form, has the capital of the
character, is no capital itself, and separates words just if the character does. -/
structure IsLowered (c d : Char) : Prop where
  ascii : d.toNat < 128
  lower : d.toLower = d
  upper : d.toUpper = c.toUpper
  isUpper : LetterCase.isUpper d = false
  isSeparator : Words.isSeparator d = Words.isSeparator c

/-- It can be decided whether a character is the lower-case form of another one. -/
instance (c d : Char) : Decidable (IsLowered c d) :=
  decidable_of_iff (d.toNat < 128 ∧ d.toLower = d ∧ d.toUpper = c.toUpper ∧
    LetterCase.isUpper d = false ∧ Words.isSeparator d = Words.isSeparator c)
    ⟨fun ⟨hascii, hlower, hupper, hisUpper, hisSeparator⟩ =>
      ⟨hascii, hlower, hupper, hisUpper, hisSeparator⟩,
    fun h => ⟨h.ascii, h.lower, h.upper, h.isUpper, h.isSeparator⟩⟩

/-- In ASCII the small letter has all that is asked of a lower-case form. -/
theorem isLowered_toLower (hc : c.toNat < 128) : IsLowered c c.toLower := by
  have hall : ∀ n < 128, IsLowered (Char.ofNat n) (Char.ofNat n).toLower := by decide +kernel
  exact forall_ascii (P := fun c => IsLowered c c.toLower) hall hc

/-- Small letters of ASCII belong to ASCII. -/
theorem AllAscii.map_toLower (h : AllAscii cs) : AllAscii (cs.map Char.toLower) := by
  intro d hd
  obtain ⟨c, hc, rfl⟩ := List.mem_map.mp hd
  exact (isLowered_toLower (h c hc)).ascii

/-- Small letters of ASCII are their own small letters. -/
theorem AllAscii.map_toLower_map_toLower (h : AllAscii cs) :
    (cs.map Char.toLower).map Char.toLower = cs.map Char.toLower := by
  rw [List.map_map]
  exact List.map_congr_left fun c hc => (isLowered_toLower (h c hc)).lower

/-- In ASCII the lower-case form of a text does not depend on what comes before it. -/
theorem lowerAfter_of_ascii (h : AllAscii cs) (before : List Char) :
    lowerAfter before cs = cs.map Char.toLower := by
  induction cs generalizing before with
  | nil => rfl
  | cons c cs ih =>
    obtain ⟨hc, hcs⟩ := List.forall_mem_cons.mp h
    have hsigma : c ≠ 'Σ' := by
      rintro rfl
      exact absurd hc (by decide)
    rw [lowerAfter, if_neg hsigma, lower_of_ascii hc, ih hcs]
    rfl

/-- In ASCII the lower-case form of a text is that of its characters. -/
theorem toList_lowerText_of_ascii {text : String} (h : AllAscii text.toList) :
    (lowerText text).toList = text.toList.map Char.toLower := by
  rw [lowerText, String.toList_ofList, lowerAfter_of_ascii h]

/-- In ASCII the lower-case form of a text is its own lower-case form. -/
theorem lowerText_lowerText {text : String} (h : AllAscii text.toList) :
    lowerText (lowerText text) = lowerText text := by
  have hlow := toList_lowerText_of_ascii h
  have hascii : AllAscii (lowerText text).toList := hlow ▸ h.map_toLower
  refine String.toList_injective ?_
  rw [toList_lowerText_of_ascii hascii, hlow, h.map_toLower_map_toLower]

/-- In ASCII lower-case forms of characters can be taken one by one. -/
theorem flatMap_lower_of_ascii (h : AllAscii cs) : cs.flatMap lower = cs.map Char.toLower := by
  rw [List.map_eq_flatMap]
  exact List.flatMap_congr fun c hc => lower_of_ascii (h c hc)

/-- A capitalized text of ASCII starts with a capital, and small letters follow. -/
theorem toList_capitalize {text : String} (h : AllAscii text.toList)
    (hchars : text.toList = c :: cs) :
    (capitalize text).toList = c.toUpper :: cs.map Char.toLower := by
  rw [hchars] at h
  obtain ⟨hc, hcs⟩ := List.forall_mem_cons.mp h
  simp only [capitalize, hchars, upper_of_ascii hc, flatMap_lower_of_ascii hcs,
    String.toList_ofList, List.singleton_append]

/-- A word has the same capitalized form as its lower-case form. -/
theorem capitalize_lowerText {text : String} (h : AllAscii text.toList) :
    capitalize (lowerText text) = capitalize text := by
  have hlow := toList_lowerText_of_ascii h
  have hascii : AllAscii (lowerText text).toList := hlow ▸ h.map_toLower
  cases hchars : text.toList with
  | nil => simp [capitalize, hlow, hchars]
  | cons c cs =>
    rw [hchars, List.map_cons] at hlow
    have hc : c.toNat < 128 := h c (by simp [hchars])
    have hcs : AllAscii cs := fun d hd => h d (by simp [hchars, hd])
    refine String.toList_injective ?_
    rw [toList_capitalize hascii hlow, toList_capitalize h hchars, (isLowered_toLower hc).upper,
      hcs.map_toLower_map_toLower]

end Ascii

section Conversion

variable {name : String}

/-- A word of a name is one of those into which its characters are split. -/
theorem exists_of_mem_words {word : String} (h : word ∈ words name) :
    word.toList ∈ Words.splitFrom none [] name.toList := by
  obtain ⟨w, hw, rfl⟩ := List.mem_map.mp h
  rwa [String.toList_ofList]

/-- The words of a name of ASCII belong to ASCII. -/
theorem ascii_of_mem_words (h : AllAscii name.toList) {word : String} (hword : word ∈ words name) :
    AllAscii word.toList := by
  intro c hc
  have hmem := Words.mem_of_mem_splitFrom (exists_of_mem_words hword) hc
  exact h c (hmem.resolve_left List.not_mem_nil).1

/-- No word has a separator in it. -/
theorem isSeparator_of_mem_words {word : String} (hword : word ∈ words name) {c : Char}
    (hc : c ∈ word.toList) : Words.isSeparator c = false :=
  ((Words.mem_of_mem_splitFrom (exists_of_mem_words hword) hc).resolve_left List.not_mem_nil).2

/-- No word is empty. -/
theorem ne_empty_of_mem_words {word : String} (hword : word ∈ words name) : word ≠ "" := by
  rintro rfl
  exact Words.ne_nil_of_mem_splitFrom (exists_of_mem_words hword) rfl

/-- In ASCII the words of the snake case are the words in lower case. -/
theorem words_snakeCase (h : AllAscii name.toList) :
    words (snakeCase name) = (words name).map LetterCase.lowerText := by
  let lowered := (words name).map LetterCase.lowerText
  have hchars : ∀ w ∈ lowered.map String.toList, ∃ word ∈ words name,
      w = word.toList.map Char.toLower := by
    intro w hw
    obtain ⟨_, hlow, rfl⟩ := List.mem_map.mp hw
    obtain ⟨word, hword, rfl⟩ := List.mem_map.mp hlow
    exact ⟨word, hword, toList_lowerText_of_ascii (ascii_of_mem_words h hword)⟩
  have hne : ∀ w ∈ lowered.map String.toList, w ≠ [] := by
    intro w hw
    obtain ⟨word, hword, rfl⟩ := hchars w hw
    simpa using ne_empty_of_mem_words hword
  have hinner : ∀ w ∈ lowered.map String.toList, ∀ c ∈ w, Words.IsInner c := by
    intro w hw c hc
    obtain ⟨word, hword, rfl⟩ := hchars w hw
    obtain ⟨d, hd, rfl⟩ := List.mem_map.mp hc
    have hlow := isLowered_toLower (ascii_of_mem_words h hword d hd)
    exact ⟨hlow.isSeparator.trans (isSeparator_of_mem_words hword hd), hlow.isUpper⟩
  have hsnake : (snakeCase name).toList = ['_'].intercalate (lowered.map String.toList) :=
    String.toList_intercalate
  rw [words, hsnake, Words.splitFrom_intercalate hne hinner, List.map_map]
  exact (List.map_congr_left fun w _ => String.ofList_toList).trans (List.map_id _)

/-- In ASCII a name in snake case is its own form in snake case. -/
theorem snakeCase_snakeCase (h : AllAscii name.toList) :
    snakeCase (snakeCase name) = snakeCase name := by
  have hwords : ((words name).map LetterCase.lowerText).map LetterCase.lowerText =
      (words name).map LetterCase.lowerText := by
    rw [List.map_map]
    exact List.map_congr_left fun word hword => lowerText_lowerText (ascii_of_mem_words h hword)
  rw [snakeCase, words_snakeCase h, hwords, ← snakeCase]

/-- In ASCII the form in Pascal case can be taken of the form in snake case. -/
theorem pascalCase_snakeCase (h : AllAscii name.toList) :
    pascalCase (snakeCase name) = pascalCase name := by
  rw [pascalCase, words_snakeCase h, List.map_map, pascalCase]
  exact congrArg String.join
    (List.map_congr_left fun word hword => capitalize_lowerText (ascii_of_mem_words h hword))

end Conversion

/-- The words of an identifier are not empty, contain no separator, and make up the identifier
without its separators. If the identifier is ASCII, then its snake case has the same words in lower
case, and is converted to snake case and to Pascal case as the identifier itself is. -/
theorem words_partition_and_survive_snakeCase (name : String) :
    (∀ word ∈ words name, word ≠ "" ∧ ∀ c ∈ ['_', '-', '.', ' '], c ∉ word.toList) ∧
      String.join (words name) =
        String.ofList (name.toList.filter fun c => c ∉ ['_', '-', '.', ' ']) ∧
      (AllAscii name.toList →
        words (snakeCase name) = (words name).map LetterCase.lowerText ∧
          snakeCase (snakeCase name) = snakeCase name ∧
          pascalCase (snakeCase name) = pascalCase name) := by
  have hseparator : ∀ c, Words.isSeparator c = decide (c ∈ ['_', '-', '.', ' ']) := by
    intro c
    simp [Words.isSeparator, Bool.or_assoc]
  refine ⟨fun word hword => ⟨ne_empty_of_mem_words hword, ?_⟩, ?_,
    fun h => ⟨words_snakeCase h, snakeCase_snakeCase h, pascalCase_snakeCase h⟩⟩
  · intro c hc hmem
    have hfree := isSeparator_of_mem_words hword hmem
    rw [hseparator c, decide_eq_false_iff_not] at hfree
    exact hfree hc
  · have hflat := Words.flatten_splitFrom none [] name.toList
    simp only [hseparator, List.reverse_nil, List.nil_append] at hflat
    refine String.toList_injective ?_
    rw [String.toList_join, words, List.flatMap_map, String.toList_ofList]
    simpa [List.flatMap_def] using hflat

/-- A run of capitals in front of a capitalized word, and a digit before a capital. -/
theorem words_of_httpHeader :
    AllAscii "HTTPHeader-v2Id".toList ∧
      words "HTTPHeader-v2Id" = ["HTTP", "Header", "v2", "Id"] ∧
      words (snakeCase "HTTPHeader-v2Id") = ["http", "header", "v2", "id"] ∧
      pascalCase (snakeCase "HTTPHeader-v2Id") = pascalCase "HTTPHeader-v2Id" := by
  have hascii : AllAscii "HTTPHeader-v2Id".toList := by decide
  obtain ⟨hwords, _, hpascal⟩ :=
    (words_partition_and_survive_snakeCase "HTTPHeader-v2Id").2.2 hascii
  have hpieces : words "HTTPHeader-v2Id" = ["HTTP", "Header", "v2", "Id"] := by decide
  refine ⟨hascii, hpieces, ?_, hpascal⟩
  rw [hwords, hpieces]
  decide

end Peg.Text
