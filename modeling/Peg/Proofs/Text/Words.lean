import Peg.Text.Words

/-!
# What an identifier in snake case consists of

Splitting an identifier into words loses its separators and nothing else, so that its snake case
consists of lower-case forms of the other characters with underscores between them.
-/

namespace Peg.Text

/-- What holds of the first 128 characters holds of every character of ASCII. -/
theorem forall_ascii {P : Char → Prop} {c : Char} (h : ∀ n < 128, P (Char.ofNat n))
    (hc : c.toNat < 128) : P c := by
  have hself := h c.toNat hc
  rwa [Char.ofNat_toNat] at hself

namespace Words

/-- Closing a word adds that word and no other. -/
theorem mem_close {word w : List Char} {words : List (List Char)} (h : w ∈ close word words) :
    w = word.reverse ∨ w ∈ words := by
  rw [close] at h
  split at h
  · exact Or.inr h
  · exact List.mem_cons.mp h

/-- A word has the characters that were collected for it and others of the identifier. -/
theorem mem_of_mem_splitFrom {before? : Option Char} {word w cs : List Char} {c : Char}
    (hw : w ∈ splitFrom before? word cs) (hc : c ∈ w) :
    c ∈ word ∨ c ∈ cs ∧ isSeparator c = false := by
  induction cs generalizing before? word with
  | nil =>
    rcases mem_close hw with rfl | hw
    · exact Or.inl (List.mem_reverse.mp hc)
    · cases hw
  | cons d cs ih =>
    have hlift : ∀ {other : List Char}, w ∈ splitFrom (some d) other cs →
        c ∈ other ∨ c ∈ d :: cs ∧ isSeparator c = false := by
      intro other hw
      rcases ih hw with hother | ⟨hmem, hsep⟩
      · exact Or.inl hother
      · exact Or.inr ⟨List.mem_cons_of_mem d hmem, hsep⟩
    rw [splitFrom] at hw
    split at hw
    · rcases mem_close hw with rfl | hw
      · exact Or.inl (List.mem_reverse.mp hc)
      · exact Or.inr ((hlift hw).resolve_left List.not_mem_nil)
    next hsep =>
      have hd : c = d → c ∈ d :: cs ∧ isSeparator c = false := by
        rintro rfl
        exact ⟨List.mem_cons_self, by simpa using hsep⟩
      split at hw
      · rcases mem_close hw with rfl | hw
        · exact Or.inl (List.mem_reverse.mp hc)
        · rcases hlift hw with hcd | hmem
          · exact Or.inr (hd (List.mem_singleton.mp hcd))
          · exact Or.inr hmem
      · rcases hlift hw with hcd | hmem
        · rcases List.mem_cons.mp hcd with hcd | hword
          · exact Or.inr (hd hcd)
          · exact Or.inl hword
        · exact Or.inr hmem

end Words

/-- A character belongs to a lower-case form of another one. A capital sigma has two of them. -/
def IsLowerOf (c d : Char) : Prop :=
  c ∈ LetterCase.lower d ∨ d = 'Σ' ∧ (c = 'σ' ∨ c = 'ς')

/-- Every character of a lower-cased text comes from one of the text. -/
theorem LetterCase.exists_of_mem_lowerAfter {before cs : List Char} {c : Char}
    (h : c ∈ lowerAfter before cs) : ∃ d ∈ cs, IsLowerOf c d := by
  induction cs generalizing before with
  | nil => cases h
  | cons d cs ih =>
    rw [lowerAfter, List.mem_append] at h
    rcases h with hform | hrest
    · refine ⟨d, List.mem_cons_self, ?_⟩
      split at hform
      next hsigma =>
        split at hform
        · exact Or.inr ⟨hsigma, Or.inr (List.mem_singleton.mp hform)⟩
        · exact Or.inr ⟨hsigma, Or.inl (List.mem_singleton.mp hform)⟩
      · exact Or.inl hform
    · obtain ⟨e, he, hlower⟩ := ih hrest
      exact ⟨e, List.mem_cons_of_mem d he, hlower⟩

/-- A character of a joined text comes from a word or from what joins them. -/
theorem mem_intercalate {c : Char} {between : List Char} {words : List (List Char)}
    (h : c ∈ between.intercalate words) : c ∈ between ∨ ∃ w ∈ words, c ∈ w := by
  induction words with
  | nil => simp at h
  | cons w words ih =>
    cases words with
    | nil => exact Or.inr ⟨w, List.mem_cons_self, by simpa using h⟩
    | cons w' words =>
      rw [List.intercalate_cons_cons, List.mem_append, List.mem_append] at h
      rcases h with (hw | hbetween) | hrest
      · exact Or.inr ⟨w, List.mem_cons_self, hw⟩
      · exact Or.inl hbetween
      · rcases ih hrest with hbetween | ⟨v, hv, hc⟩
        · exact Or.inl hbetween
        · exact Or.inr ⟨v, List.mem_cons_of_mem w hv, hc⟩

/-- A character of the snake case is an underscore or comes from a character of the identifier that
does not separate words. -/
theorem exists_of_mem_snakeCase {name : String} {c : Char} (h : c ∈ (snakeCase name).toList) :
    c = '_' ∨ ∃ d ∈ name.toList, Words.isSeparator d = false ∧ IsLowerOf c d := by
  rw [snakeCase, String.toList_intercalate] at h
  rcases mem_intercalate h with hbetween | ⟨lowered, hlowered, hc⟩
  · exact Or.inl (by simpa using hbetween)
  · obtain ⟨_, hmem, rfl⟩ := List.mem_map.mp hlowered
    obtain ⟨_, hword, rfl⟩ := List.mem_map.mp hmem
    obtain ⟨w, hw, rfl⟩ := List.mem_map.mp hword
    rw [LetterCase.lowerText, String.toList_ofList, String.toList_ofList] at hc
    obtain ⟨d, hd, hlower⟩ := LetterCase.exists_of_mem_lowerAfter hc
    obtain ⟨hname, hsep⟩ := (Words.mem_of_mem_splitFrom hw hd).resolve_left List.not_mem_nil
    exact Or.inr ⟨d, hname, hsep, hlower⟩

end Peg.Text
