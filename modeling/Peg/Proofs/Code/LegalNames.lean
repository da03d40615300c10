import Peg.Proofs.Code.Declarations
import Peg.Proofs.Text.CaseConversion

/-!
# Which names in generated code are identifiers

The functions and methods of generated code have the names of identifiers, whatever the rules are
called. Other names are identifiers with exceptions: words that are reserved for a later use are not
noticed, an empty name becomes a lone underscore, and the name of the visitor is used as it is.
-/

namespace Peg

namespace Text

/-- An image comes from one of the shifts, whose stride has the code. -/
theorem CodeShift.exists_of_image? {shifts : List CodeShift} {code image : Nat}
    (h : CodeShift.image? shifts code = some image) :
    ∃ s ∈ shifts, s.stride.contains code = true ∧ ((code : Int) + s.distance).toNat = image := by
  induction shifts with
  | nil => cases h
  | cons s shifts ih =>
    rw [CodeShift.image?] at h
    split at h
    · cases h
    · split at h
      next hcontains => exact ⟨s, List.mem_cons_self, hcontains, Option.some.inj h⟩
      · obtain ⟨t, ht, hfound⟩ := ih h
        exact ⟨t, List.mem_cons_of_mem s ht, hfound⟩

/-- Whatever is mapped to a code point other than zero is among its preimages. -/
theorem CodeShift.mem_preimages {shifts : List CodeShift} {code image : Nat} (himage : 0 < image)
    (h : CodeShift.image? shifts code = some image) : code ∈ CodeShift.preimages shifts image := by
  obtain ⟨s, hs, hcontains, hsum⟩ := CodeShift.exists_of_image? h
  have hcode : ((image : Int) - s.distance).toNat = code := by omega
  refine List.mem_filterMap.mpr ⟨s, hs, ?_⟩
  simp only [hcode, hcontains, if_true]

namespace LetterCase

/-- A character other than the null character is made from its own code point only. -/
theorem eq_toNat_of_ofNat {code : Nat} {c : Char} (hc : c.toNat ≠ 0) (h : Char.ofNat code = c) :
    code = c.toNat := by
  by_cases hvalid : code.isValidChar
  · rw [Char.ofNat, dif_pos hvalid] at h
    exact h ▸ rfl
  · rw [Char.ofNat, dif_neg hvalid] at h
    exact absurd (h ▸ rfl) hc

/-- An upper-case form is not empty, and it never begins with a small `r`. -/
theorem exists_upper_eq_cons (c : Char) : ∃ d ds, upper c = d :: ds ∧ d ≠ 'r' := by
  cases himage : CodeShift.image? upperShifts c.toNat with
  | some code =>
    refine ⟨Char.ofNat code, [], upper_of_image? himage, fun hr => ?_⟩
    have hcode : code = 'r'.toNat := eq_toNat_of_ofNat (by decide) hr
    have hmem := CodeShift.mem_preimages (by rw [hcode]; decide) himage
    have hnone : CodeShift.preimages upperShifts 'r'.toNat = [] := by decide +kernel
    rw [hcode, hnone] at hmem
    cases hmem
  | none =>
    rw [upper_of_image?_eq_none himage]
    cases hlookup : upperExpansions.lookup c.toNat with
    | none =>
      refine ⟨c, [], rfl, ?_⟩
      rintro rfl
      have hsome : CodeShift.image? upperShifts 'r'.toNat = some 'R'.toNat := by decide +kernel
      rw [hsome] at himage
      cases himage
    | some codes =>
      have hheads : ∀ entry ∈ upperExpansions,
          ((entry.2.map Char.ofNat).head?.any fun d => d ≠ 'r') = true := by decide +kernel
      obtain ⟨front, back, hentries, _⟩ := List.lookup_eq_some_iff.mp hlookup
      have hhead := hheads (c.toNat, codes) (by rw [hentries]; simp)
      cases codes with
      | nil => cases hhead
      | cons code codes => exact ⟨_, _, rfl, by simpa using hhead⟩

end LetterCase

/-- No name in Pascal case begins with a small `r`. -/
theorem head?_pascalCase_ne (name : String) : (pascalCase name).toList.head? ≠ some 'r' := by
  have hjoin : (pascalCase name).toList =
      (words name).flatMap fun word => (capitalize word).toList := by
    rw [pascalCase, String.toList_join, List.flatMap_map]
  rw [hjoin]
  cases hwords : words name with
  | nil => simp
  | cons word rest =>
    have hne : word ≠ "" := ne_empty_of_mem_words (hwords ▸ List.mem_cons_self)
    cases hchars : word.toList with
    | nil => exact absurd (String.toList_eq_nil_iff.mp hchars) hne
    | cons c cs =>
      obtain ⟨d, ds, hupper, hd⟩ := LetterCase.exists_upper_eq_cons c
      simpa [capitalize, hchars, hupper] using hd

end Text

namespace Code

open Peg.Text

/-- The words that the 2024 edition uses. -/
def strictKeywords : List String :=
  ["as", "async", "await", "break", "const", "continue", "crate", "dyn", "else", "enum", "extern",
    "false", "fn", "for", "if", "impl", "in", "let", "loop", "match", "mod", "move", "mut", "pub",
    "ref", "return", "self", "Self", "static", "struct", "super", "trait", "true", "type", "unsafe",
    "use", "where", "while"]

/-- The words that the 2024 edition keeps for a later use. -/
def reservedKeywords : List String :=
  ["abstract", "become", "box", "do", "final", "gen", "macro", "override", "priv", "try", "typeof",
    "unsized", "virtual", "yield"]

/-- The reserved words that are not told from other names. -/
def unnoticedKeywords : List String :=
  ["abstract", "become", "box", "do", "final", "macro", "override", "priv", "try", "typeof",
    "unsized", "virtual"]

/-- The text consists of ASCII letters, digits and underscores, it does not start with a digit, and
it is more than an underscore. -/
structure IsWord (text : String) : Prop where
  chars : ∀ c ∈ text.toList, c.isAlphanum = true ∨ c = '_'
  first : ∀ c ∈ text.toList.head?, c.isDigit = false
  ne_empty : text ≠ ""
  ne_underscore : text ≠ "_"

/-- It can be decided whether a text is a word. -/
instance (text : String) : Decidable (IsWord text) :=
  decidable_of_iff ((text.toList.all fun c => c.isAlphanum || c == '_') = true ∧
      text.toList.head?.all (fun c => !c.isDigit) = true ∧ text ≠ "" ∧ text ≠ "_")
    ⟨fun ⟨hchars, hfirst, hempty, hunderscore⟩ =>
      ⟨by simpa using hchars, by simpa [Option.all_eq_true] using hfirst, hempty, hunderscore⟩,
      fun h => ⟨by simpa using h.chars, by simpa [Option.all_eq_true] using h.first, h.ne_empty,
        h.ne_underscore⟩⟩

/-- The text is an identifier: a word other than the keywords, or one that is written as a raw
identifier. -/
inductive IsLegalName : String → Prop where
  | plain {name : String} : IsWord name → name ∉ strictKeywords → name ∉ reservedKeywords →
      IsLegalName name
  | raw {name : String} : IsWord name → name ∉ ["crate", "self", "super", "Self"] →
      IsLegalName ("r#" ++ name)

/-- An identifier that is not written as a raw one is a word other than the keywords. -/
theorem IsLegalName.isWord {text : String} (h : IsLegalName text)
    (hraw : ¬ ['r', '#'] <+: text.toList) :
    IsWord text ∧ text ∉ strictKeywords ∧ text ∉ reservedKeywords := by
  cases h with
  | plain hword hstrict hreserved => exact ⟨hword, hstrict, hreserved⟩
  | raw =>
    rw [String.toList_append] at hraw
    exact absurd (List.prefix_append _ _) hraw

/-- A plain text has no prefix of a raw identifier. -/
theorem IsPlain.not_raw {text : String} (h : IsPlain text) : ¬ ['r', '#'] <+: text.toList := by
  intro hraw
  have hsharp := h '#' (hraw.subset (by simp))
  cases hsharp

/-- Identifiers consist of letters, digits and underscores of ASCII. -/
theorem isIdentifierChar_iff {c : Char} :
    isIdentifierChar c = true ↔ c.isAlphanum = true ∨ c = '_' := by
  simp [isIdentifierChar]

section Plain

variable {name : String}

/-- What a plain identifier consists of. -/
theorem plainIdentifier_cases (name : String) :
    (name = "" ∧ plainIdentifier name = "_") ∨
      ∃ c rest, (underscored name).toList = c :: rest ∧
        ((c.isDigit = true ∧ plainIdentifier name = "_" ++ underscored name) ∨
          c.isDigit = false ∧ plainIdentifier name = underscored name) := by
  cases hchars : (underscored name).toList with
  | nil =>
    have hname : name.toList = [] := by
      rw [underscored, String.toList_ofList] at hchars
      exact List.map_eq_nil_iff.mp hchars
    obtain rfl := String.toList_eq_nil_iff.mp hname
    exact Or.inl ⟨rfl, by decide⟩
  | cons c rest =>
    refine Or.inr ⟨c, rest, rfl, ?_⟩
    cases hdigit : c.isDigit with
    | false => exact Or.inr ⟨rfl, plainIdentifier_eq hchars hdigit⟩
    | true =>
      refine Or.inl ⟨rfl, ?_⟩
      have hmap : (name.toList.map fun c => if isIdentifierChar c then c else '_') = c :: rest := by
        rw [← hchars, underscored, String.toList_ofList]
      rw [plainIdentifier, underscored, hmap]
      simp only [hdigit, if_true]
      exact String.ofList_cons

/-- An identifier without regard to keywords is plain. -/
theorem isPlain_plainIdentifier (name : String) : IsPlain (plainIdentifier name) := by
  rcases plainIdentifier_cases name with ⟨_, heq⟩ | ⟨c, rest, _, ⟨_, heq⟩ | ⟨_, heq⟩⟩
  · rw [heq]
    decide
  · rw [heq]
    exact IsPlain.append (by decide) (isPlain_underscored name)
  · rw [heq]
    exact isPlain_underscored name

/-- A plain identifier is a word, or else it is a lone underscore. -/
theorem isWord_plainIdentifier (h : plainIdentifier name ≠ "_") :
    IsWord (plainIdentifier name) := by
  refine ⟨fun c hc => isIdentifierChar_iff.mp (isPlain_plainIdentifier name c hc), ?_, ?_, h⟩
  · rcases plainIdentifier_cases name with ⟨_, heq⟩ | ⟨c, rest, hchars, ⟨_, heq⟩ | ⟨hdigit, heq⟩⟩
    · exact absurd heq h
    · rw [heq, String.toList_append]
      simp
    · rw [heq, hchars]
      simpa using hdigit
  · rcases plainIdentifier_cases name with ⟨_, heq⟩ | ⟨c, rest, hchars, ⟨_, heq⟩ | ⟨_, heq⟩⟩
    · exact absurd heq h
    · rw [heq]
      simp
    · rw [heq]
      rintro hempty
      rw [hempty] at hchars
      cases hchars

/-- Underscores stand for all characters but letters and digits. -/
theorem replaced_eq_underscore_iff {c : Char} :
    (if isIdentifierChar c then c else '_') = '_' ↔ c.isAlphanum = false := by
  by_cases hchar : isIdentifierChar c = true
  · rw [if_pos hchar]
    constructor
    · rintro rfl
      rfl
    · intro halphanum
      exact (isIdentifierChar_iff.mp hchar).resolve_left (by simp [halphanum])
  · rw [if_neg hchar]
    refine iff_of_true rfl ?_
    by_contra halphanum
    exact hchar (isIdentifierChar_iff.mpr (.inl (by simpa using halphanum)))

/-- A name becomes a lone underscore if it has one character at most, and no letter or digit. -/
theorem plainIdentifier_eq_underscore_iff :
    plainIdentifier name = "_" ↔
      name.toList.length ≤ 1 ∧ ∀ c ∈ name.toList, c.isAlphanum = false := by
  have hreplaced : (underscored name).toList =
      name.toList.map fun c => if isIdentifierChar c then c else '_' := by
    rw [underscored, String.toList_ofList]
  rcases plainIdentifier_cases name with ⟨rfl, heq⟩ | ⟨c, rest, hchars, ⟨hdigit, heq⟩ | ⟨_, heq⟩⟩
  · simp [heq]
  · refine iff_of_false ?_ ?_
    · rw [heq, ← String.toList_inj, String.toList_append, hchars]
      simp
    · rintro ⟨_, hnone⟩
      obtain ⟨d, hd, rfl⟩ := List.mem_map.mp (hreplaced ▸ hchars ▸ List.mem_cons_self :
        c ∈ name.toList.map fun c => if isIdentifierChar c then c else '_')
      rw [replaced_eq_underscore_iff.mpr (hnone d hd)] at hdigit
      cases hdigit
  · rw [heq, ← String.toList_inj, hreplaced]
    cases hname : name.toList with
    | nil => simp [hreplaced, hname] at hchars
    | cons d cs =>
      rw [List.map_cons, show "_".toList = ['_'] from rfl, List.cons_eq_cons,
        replaced_eq_underscore_iff, List.map_eq_nil_iff]
      constructor
      · rintro ⟨hd, rfl⟩
        exact ⟨by simp, by simpa using hd⟩
      · rintro ⟨hshort, hnone⟩
        exact ⟨hnone d List.mem_cons_self, List.eq_nil_of_length_eq_zero (by simpa using hshort)⟩

/-- A word without underscores comes from itself alone. -/
theorem plainIdentifier_eq_iff {word : String} (hword : IsWord word) (hfree : '_' ∉ word.toList) :
    plainIdentifier name = word ↔ name = word := by
  have hplain : IsPlain word := fun c hc => isIdentifierChar_iff.mpr (hword.chars c hc)
  constructor
  · intro heq
    rcases plainIdentifier_cases name with ⟨_, hlone⟩ | ⟨c, rest, _, ⟨_, hdigit⟩ | ⟨_, hsame⟩⟩
    · exact absurd (heq.symm.trans hlone) hword.ne_underscore
    · rw [← heq, hdigit, String.toList_append] at hfree
      simp at hfree
    · rw [heq] at hsame
      have hname : IsPlain name := by
        intro c hc
        by_contra hother
        refine hfree (hsame ▸ ?_)
        rw [underscored, String.toList_ofList]
        exact List.mem_map.mpr ⟨c, hc, by simp [hother]⟩
      rw [hsame, underscored_eq hname]
  · rintro rfl
    rcases plainIdentifier_cases name with ⟨hempty, _⟩ | ⟨c, rest, hchars, hcases⟩
    · exact absurd hempty hword.ne_empty
    · rw [underscored_eq hplain] at hchars hcases
      have hdigit : c.isDigit = false := hword.first c (by simp [hchars])
      rcases hcases with ⟨hdigit', _⟩ | ⟨_, hsame⟩
      · rw [hdigit] at hdigit'
        cases hdigit'
      · exact hsame

end Plain

/-- The name is told from the keywords, and it does not come down to an underscore. -/
def IsNameable (name : String) : Prop :=
  name ∉ unnoticedKeywords ∧ ¬ (name.toList.length ≤ 1 ∧ ∀ c ∈ name.toList, c.isAlphanum = false)

/-- What is made of a keyword that is noticed is an identifier. -/
theorem isLegalName_of_mem_keywords {name : String} (h : name ∈ keywords) :
    IsLegalName (identifier name) := by
  have hwords : ∀ word ∈ keywords, IsWord word ∧ '_' ∉ word.toList := by decide
  have hplain : plainIdentifier name = name :=
    (plainIdentifier_eq_iff (hwords name h).1 (hwords name h).2).mpr rfl
  rw [identifier, hplain]
  split
  next hpath =>
    have hmarked : ∀ word ∈ pathKeywords, IsWord (word ++ "_") ∧ word ++ "_" ∉ strictKeywords ∧
        word ++ "_" ∉ reservedKeywords := by decide
    obtain ⟨hword, hstrict, hreserved⟩ := hmarked name (List.contains_iff_mem.mp hpath)
    exact .plain hword hstrict hreserved
  next hpath =>
    rw [if_pos (List.contains_iff_mem.mpr h)]
    refine .raw (hwords name h).1 fun hmem => hpath ?_
    have hsame : ∀ word ∈ ["crate", "self", "super", "Self"],
        pathKeywords.contains word = true := by decide
    exact hsame name hmem

/-- What is made of any name is an identifier, unless the name is a reserved word that is not
noticed or comes down to an underscore. -/
theorem isLegalName_identifier_iff (name : String) :
    IsLegalName (identifier name) ↔ IsNameable name := by
  have hnoticed : ∀ word ∈ keywords, IsWord word ∧ '_' ∉ word.toList ∧
      word ∉ unnoticedKeywords ∧ 1 < word.toList.length := by decide
  by_cases hkeyword : name ∈ keywords
  · obtain ⟨_, _, hother, hlong⟩ := hnoticed name hkeyword
    exact iff_of_true (isLegalName_of_mem_keywords hkeyword) ⟨hother, by omega⟩
  · -- The keywords have no underscores, so none of them is made of another name.
    have hfree : ∀ word ∈ keywords, plainIdentifier name ≠ word := by
      intro word hmem heq
      obtain ⟨hword, hunderscore, _⟩ := hnoticed word hmem
      exact hkeyword ((plainIdentifier_eq_iff hword hunderscore).mp heq ▸ hmem)
    have hpath : ∀ word ∈ pathKeywords, word ∈ keywords := by decide
    have hidentifier : identifier name = plainIdentifier name := by
      rw [identifier, if_neg, if_neg]
      · exact fun hmem => hfree _ (List.contains_iff_mem.mp hmem) rfl
      · exact fun hmem => hfree _ (hpath _ (List.contains_iff_mem.mp hmem)) rfl
    have hstrict : ∀ word ∈ strictKeywords, word ∈ keywords := by decide
    have hreserved : ∀ word ∈ reservedKeywords, word ∈ keywords ∨ word ∈ unnoticedKeywords := by
      decide
    have hunnoticed : ∀ word ∈ unnoticedKeywords, word ∈ reservedKeywords ∧ IsWord word ∧
        '_' ∉ word.toList := by decide
    rw [hidentifier, IsNameable, ← plainIdentifier_eq_underscore_iff]
    constructor
    · intro hlegal
      obtain ⟨hword, _, hnot⟩ := hlegal.isWord (isPlain_plainIdentifier name).not_raw
      refine ⟨fun hmem => ?_, hword.ne_underscore⟩
      obtain ⟨hmem', hword', hunderscore⟩ := hunnoticed name hmem
      rw [(plainIdentifier_eq_iff hword' hunderscore).mpr rfl] at hnot
      exact hnot hmem'
    · rintro ⟨hother, hlone⟩
      refine .plain (isWord_plainIdentifier hlone) (fun hmem => hfree _ (hstrict _ hmem) rfl) ?_
      intro hmem
      rcases hreserved _ hmem with hmem | hmem
      · exact hfree _ hmem rfl
      · obtain ⟨_, hword', hunderscore⟩ := hunnoticed _ hmem
        exact hother ((plainIdentifier_eq_iff hword' hunderscore).mp rfl ▸ hmem)

/-- What is made of a name with a beginning that no keyword has is an identifier. -/
theorem isLegalName_identifier_append {start : String} (hlong : 1 < start.toList.length)
    (hwords : ∀ word ∈ unnoticedKeywords, ¬ start.toList <+: word.toList) (name : String) :
    IsLegalName (identifier (start ++ name)) := by
  refine (isLegalName_identifier_iff _).mpr ⟨fun hmem => hwords _ hmem ?_, fun ⟨hshort, _⟩ => ?_⟩
  · rw [String.toList_append]
    exact List.prefix_append _ _
  · rw [String.toList_append, List.length_append] at hshort
    omega

/-- The names of functions are legal because of their prefix. -/
theorem isLegalName_functionName (name : String) : IsLegalName (functionName name) :=
  isLegalName_identifier_append (by decide) (by decide) name

/-- The names of methods are legal because of their prefix. -/
theorem isLegalName_methodName (name : String) : IsLegalName (methodName name) :=
  isLegalName_identifier_append (by decide) (by decide) name

/-- The name of a visitor is an identifier just if the first part of it can begin one. -/
theorem isLegalName_visitor_iff {start : String} (hr : start.toList.head? ≠ some 'r') :
    IsLegalName (start ++ "Visitor") ↔
      (∀ c ∈ start.toList, c.isAlphanum = true ∨ c = '_') ∧
        ∀ c ∈ start.toList.head?, c.isDigit = false := by
  constructor
  · intro hlegal
    -- A raw identifier would begin with a small letter.
    have hraw : ¬ ['r', '#'] <+: (start ++ "Visitor").toList := by
      intro hprefix
      obtain ⟨rest, hrest⟩ := hprefix
      rw [String.toList_append] at hrest
      cases hchars : start.toList with
      | nil => simp [hchars] at hrest
      | cons c cs =>
        rw [hchars] at hr hrest
        simp only [List.cons_append, List.cons_eq_cons] at hrest
        exact hr (congrArg some hrest.1.symm)
    obtain ⟨hword, _, _⟩ := hlegal.isWord hraw
    constructor
    · intro c hc
      exact hword.chars c (by simp [hc])
    · intro c hc
      refine hword.first c ?_
      rw [String.toList_append]
      exact List.mem_head?_append_of_mem_head? hc
  · rintro ⟨hchars, hfirst⟩
    -- No keyword ends as the name does.
    have hends : ∀ word ∈ strictKeywords ++ reservedKeywords ++ ["", "_"],
        ¬ "Visitor".toList <:+ word.toList := by decide
    have hother : start ++ "Visitor" ∉ strictKeywords ++ reservedKeywords ++ ["", "_"] := by
      intro hmem
      refine hends _ hmem ?_
      rw [String.toList_append]
      exact List.suffix_append _ _
    simp only [List.mem_append, List.mem_cons, List.not_mem_nil, or_false, not_or] at hother
    obtain ⟨⟨hstrict, hreserved⟩, hempty, hunderscore⟩ := hother
    refine .plain ⟨fun c hc => ?_, fun c hc => ?_, hempty, hunderscore⟩ hstrict hreserved
    · rw [String.toList_append, List.mem_append] at hc
      rcases hc with hc | hc
      · exact hchars c hc
      · have hvisitor : IsWord "Visitor" := by decide
        exact hvisitor.chars c hc
    · rw [String.toList_append] at hc
      cases hstart : start.toList with
      | nil =>
        obtain rfl : 'V' = c := by simpa [hstart] using hc
        rfl
      | cons d ds =>
        rw [hstart] at hc hfirst
        exact hfirst c hc

/-- Where the name of the module and the name of the visitor come from. -/
theorem Module.name_ofProgram (p : Program) (c : Config) :
    (Module.ofProgram p c).name = c.namespaceName.map moduleName ∧
      ∀ v ∈ (Module.ofProgram p c).visitor, v.name = visitorName p c := by
  refine ⟨rfl, fun v hv => ?_⟩
  simp only [Module.ofProgram] at hv
  split at hv
  · cases hv
    rfl
  · cases hv

section Declared

variable {p : Program} {c : Config}

/-- All functions in the code have legal names. -/
theorem isLegalName_of_mem_functions {f : Function} (hf : f ∈ (Module.ofProgram p c).functions) :
    IsLegalName f.name := by
  have hmem : f.name ∈ (ruleNames p).map functionName :=
    (Module.map_functionsOf p).2 ▸ List.mem_map_of_mem hf
  obtain ⟨name, _, heq⟩ := List.mem_map.mp hmem
  exact heq ▸ isLegalName_functionName name

/-- All methods in the code have legal names. -/
theorem isLegalName_of_mem_methods {v : Visitor} (hv : v ∈ (Module.ofProgram p c).visitor)
    {m : Method} (hm : m ∈ v.methods) : IsLegalName m.name := by
  rw [Module.methods_of_visitor hv] at hm
  have hmem := (Module.map_methodsOf p).2.subset (List.mem_map_of_mem hm)
  obtain ⟨name, _, heq⟩ := List.mem_map.mp hmem
  exact heq ▸ isLegalName_methodName name

/-- What the lines of the code declare has the names of identifiers. -/
theorem isLegalName_of_mem_lines {name : String}
    (h : name ∈ functionNames (Module.ofProgram p c).lines ∨
      name ∈ methodNames (Module.ofProgram p c).lines) : IsLegalName name := by
  have hown : ∀ name ∈ ["parse", "walk", "visit_children"], IsWord name ∧
      name ∉ strictKeywords ∧ name ∉ reservedKeywords := by decide
  have hlegal : ∀ name ∈ ["parse", "walk", "visit_children"], IsLegalName name := by
    intro name hname
    obtain ⟨hword, hstrict, hreserved⟩ := hown name hname
    exact .plain hword hstrict hreserved
  have hplain : ∀ v ∈ (Module.ofProgram p c).visitor, ∀ m ∈ v.methods, IsPlain m.name := by
    intro v hv
    rw [Module.methods_of_visitor hv]
    exact Module.isPlain_methodsOf p
  obtain ⟨hfunctions, hmethods⟩ := Module.names_lines (Module.isPlain_functionsOf p) hplain
  rw [hfunctions, hmethods] at h
  rcases h with h | h
  · simp only [List.cons_append, List.mem_cons, List.mem_append] at h
    rcases h with rfl | h | h
    · exact hlegal _ (by simp)
    · obtain ⟨f, hf, rfl⟩ := List.mem_map.mp h
      exact isLegalName_of_mem_functions hf
    · split at h
      · obtain rfl := List.mem_singleton.mp h
        exact hlegal _ (by simp)
      · cases h
  · cases hvisitor : (Module.ofProgram p c).visitor with
    | none => simp [hvisitor] at h
    | some v =>
      rw [hvisitor, Option.map_some, Option.getD_some, List.mem_append, List.mem_singleton] at h
      rcases h with h | rfl
      · obtain ⟨m, hm, rfl⟩ := List.mem_map.mp h
        exact isLegalName_of_mem_methods hvisitor hm
      · exact hlegal _ (by simp)

end Declared

/-- What is made of any text as an identifier is one just if the text is told from the keywords and
does not come down to an underscore. The functions and methods that the code for a program declares
have the names of identifiers. The module around it has one just if this holds of the namespace in
snake case, and the visitor just if the class name, or else that of the entry rule, in Pascal case
consists of ASCII letters, digits and underscores and does not start with a digit. -/
theorem names_legal_iff (p : Program) (c : Config) :
    (∀ name, IsLegalName (identifier name) ↔ IsNameable name) ∧
      (∀ name ∈ functionNames (Module.ofProgram p c).lines, IsLegalName name) ∧
      (∀ name ∈ methodNames (Module.ofProgram p c).lines, IsLegalName name) ∧
      (∀ f ∈ (Module.ofProgram p c).functions, IsLegalName f.name) ∧
      (∀ name ∈ (Module.ofProgram p c).name, ∃ ns ∈ c.namespaceName,
        (IsLegalName name ↔ IsNameable (snakeCase ns))) ∧
      ∀ v ∈ (Module.ofProgram p c).visitor, (∀ m ∈ v.methods, IsLegalName m.name) ∧
        let start := pascalCase (c.className.getD (((p.rule? p.entry).map Rule.name).getD ""))
        (IsLegalName v.name ↔ (∀ c ∈ start.toList, c.isAlphanum = true ∨ c = '_') ∧
          ∀ c ∈ start.toList.head?, c.isDigit = false) := by
  obtain ⟨hmodule, hvisitor⟩ := Module.name_ofProgram p c
  refine ⟨isLegalName_identifier_iff, fun _ h => isLegalName_of_mem_lines (.inl h),
    fun _ h => isLegalName_of_mem_lines (.inr h), fun _ => isLegalName_of_mem_functions, ?_, ?_⟩
  · intro name hname
    rw [hmodule] at hname
    obtain ⟨ns, hns, rfl⟩ := Option.map_eq_some_iff.mp hname
    exact ⟨ns, hns, isLegalName_identifier_iff (snakeCase ns)⟩
  · intro v hv
    refine ⟨fun m => isLegalName_of_mem_methods hv, ?_⟩
    rw [hvisitor v hv, visitorName]
    exact isLegalName_visitor_iff (head?_pascalCase_ne _)

/-- A program with one rule. -/
def oneRule : Program where
  rules := [⟨"Root", .literal "a", true⟩]
  entry := ⟨0⟩
  sound := by decide

/-- A reserved word as the name of the module, and a digit in front of the name of the visitor. -/
def misnamed : Config :=
  { withVisitor with namespaceName := some "try", className := some "2d" }

/-- A plain legal name is a word and no reserved one. -/
theorem IsLegalName.isWord_of_isPlain {text : String} (h : IsLegalName text)
    (hplain : IsPlain text) : IsWord text ∧ text ∉ reservedKeywords :=
  (h.isWord hplain.not_raw).imp_right And.right

/-- The names of the module and of the visitor are no identifiers, and neither are the names that
are made of a reserved word and of nothing. -/
theorem misnamed_not_legal :
    (Module.ofProgram oneRule misnamed).name = some "try" ∧ ¬ IsLegalName "try" ∧
      (Module.ofProgram oneRule misnamed).visitor.map Visitor.name = some "2dVisitor" ∧
      ¬ IsLegalName "2dVisitor" ∧
      identifier "try" = "try" ∧ identifier "" = "_" ∧ ¬ IsLegalName "_" := by
  have hillegal : ∀ text ∈ ["try", "2dVisitor", "_"], IsPlain text ∧
      ¬ (IsWord text ∧ text ∉ reservedKeywords) := by decide
  have hno : ∀ text ∈ ["try", "2dVisitor", "_"], ¬ IsLegalName text := fun text htext hlegal =>
    (hillegal text htext).2 (hlegal.isWord_of_isPlain (hillegal text htext).1)
  exact ⟨by decide, hno _ (by simp), by decide +kernel, hno _ (by simp), by decide, by decide,
    hno _ (by simp)⟩

/-- A keyword becomes a raw identifier, and a class name in snake case begins the name of the
visitor. -/
theorem oneRule_legal :
    let c := { withVisitor with namespaceName := some "Match", className := some "list_walk" }
    (Module.ofProgram oneRule c).name = some "r#match" ∧ IsLegalName "r#match" ∧
      (Module.ofProgram oneRule c).visitor.map Visitor.name = some "ListWalkVisitor" ∧
      IsLegalName "ListWalkVisitor" := by
  intro c
  have hname : (Module.ofProgram oneRule c).name = some "r#match" := by decide +kernel
  have hvisitor : (Module.ofProgram oneRule c).visitor.map Visitor.name =
      some "ListWalkVisitor" := by decide +kernel
  obtain ⟨_, _, _, _, hmodule, hvisitors⟩ := names_legal_iff oneRule c
  refine ⟨hname, ?_, hvisitor, ?_⟩
  · obtain ⟨ns, hns, hiff⟩ := hmodule _ hname
    obtain rfl : "Match" = ns := Option.some.inj hns
    have hnameable : IsNameable (snakeCase "Match") := by
      have hsnake : snakeCase "Match" = "match" := by decide +kernel
      rw [hsnake]
      exact ⟨by decide, by decide⟩
    exact hiff.mpr hnameable
  · obtain ⟨v, hv, heq⟩ := Option.map_eq_some_iff.mp hvisitor
    have hpascal : pascalCase "list_walk" = "ListWalk" := by decide +kernel
    have hstart : IsWord (pascalCase "list_walk") := by
      rw [hpascal]
      decide
    rw [← heq]
    exact (hvisitors v hv).2.mpr ⟨hstart.chars, hstart.first⟩

end Code

end Peg
