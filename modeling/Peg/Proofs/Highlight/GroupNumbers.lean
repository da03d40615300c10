import Peg.Highlight.Derivation
import Peg.Proofs.Except
import Peg.Proofs.Grammar.References
import Peg.Proofs.Regex.Groups

/-!
# Scopes have the numbers of their groups

The scopes of a derived pattern are listed as its groups open, so each has the number of its group.
That holds as long as all groups with a number are for scopes. A regular expression of the author
that has such groups of its own moves the numbers behind it.
-/

namespace Peg

/-- A regular expression that can be read on its own and has no capturing groups. -/
def Regex.GroupFree (source : String) : Prop :=
  HasGroups source.toList [] ∧ source.toList.head? ≠ some '?'

/-- It can be decided whether a regular expression has no capturing groups. -/
instance (source : String) : Decidable (Regex.GroupFree source) :=
  inferInstanceAs (Decidable (_ ∧ _))

namespace ScopedPattern

open Regex

/-- The regular expressions of the author. -/
def sources : ScopedPattern → List String
  | .literal _ => []
  | .regex source _ => [source]
  | .sequence left right => left.sources ++ right.sources
  | .repeated _ body | .notAhead body | .group body | .capture _ body => body.sources

/-- The scopes with the patterns that they are for, in the order in which their groups open. -/
def captured : ScopedPattern → List (String × ScopedPattern)
  | .literal _ | .regex _ _ => []
  | .sequence left right => left.captured ++ right.captured
  | .repeated _ body | .notAhead body | .group body => body.captured
  | .capture scope body => (scope, body) :: body.captured

/-- The scopes that patterns are captured for are the scopes of the pattern. -/
theorem map_fst_captured (p : ScopedPattern) : p.captured.map Prod.fst = p.scopes := by
  induction p with
  | literal | regex => rfl
  | sequence left right ihl ihr => simp [captured, scopes, ihl, ihr]
  | repeated _ body ih | notAhead body ih | group body ih => exact ih
  | capture scope body ih => simp [captured, scopes, ih]

/-- A group without a number is written in parentheses with a question mark and a colon. -/
theorem toList_plainGroup (body : String) :
    (plainGroup body).toList = "(?:".toList ++ body.toList ++ [')'] := by
  have hparts : plainGroup body = "(?:" ++ body ++ ")" := rfl
  rw [hparts, String.toList_append, String.toList_append]
  rfl

/-- A group without a number has the capturing groups of what is in it. -/
theorem hasGroups_plainGroup {body : String} {groups : List String}
    (h : HasGroups body.toList groups) : HasGroups (plainGroup body).toList groups := by
  rw [toList_plainGroup]
  exact h.group rfl rfl

/-- A repeat count is written as digits in braces. -/
theorem toList_times (times : Nat) :
    (s!"\x7b{times}\x7d").toList = '\x7b' :: (Nat.toDigits 10 times ++ ['\x7d']) := by
  have hparts : s!"\x7b{times}\x7d" = "\x7b" ++ times.repr ++ "\x7d" := rfl
  rw [hparts, String.toList_append, String.toList_append, Nat.toList_repr]
  rfl

/-- The number behind a group that is repeated says nothing about groups. -/
theorem hasGroups_times (times : Nat) : HasGroups (s!"\x7b{times}\x7d").toList [] := by
  have hdigits : ∀ c ∈ ['\\', '(', ')', '[', '#'], c.isDigit = false := by simp
  rw [toList_times]
  refine .plain fun c hc hspecial => ?_
  rw [List.mem_cons, List.mem_append, List.mem_singleton] at hc
  rcases hc with rfl | hc | rfl
  · simp at hspecial
  · have hdigit := Nat.isDigit_of_mem_toDigits (by decide) (by decide) hc
    rw [hdigits c hspecial] at hdigit
    cases hdigit
  · simp at hspecial

/-- A regular expression without groups has none as a part of a pattern, either. -/
theorem hasGroups_renderRegex {source : String} (h : GroupFree source) (times : Nat) :
    HasGroups (renderRegex source times).toList [] := by
  rw [renderRegex]
  split
  · rw [String.toList_append]
    exact (hasGroups_plainGroup h.1).append (hasGroups_times times)
  · split
    · exact hasGroups_plainGroup h.1
    · exact h.1

/-- There is no capturing group in an operator. -/
theorem hasGroups_symbol (operator : SuffixOperator) : HasGroups operator.symbol.toList [] := by
  cases operator <;> decide

/-- A quoted text does not start with a question mark. -/
theorem head?_quote (text : String) : (Regex.quote text).toList.head? ≠ some '?' := by
  rw [Regex.quote, String.toList_ofList]
  cases text.toList with
  | nil => simp
  | cons c cs =>
    by_cases hmeta : c ∈ metaCharacters
    · simp [quoteChar, hmeta]
    · have hne : c ≠ '?' := by
        rintro rfl
        exact hmeta (by decide)
      simpa [quoteChar, hmeta] using hne

/-- A group does not start with a question mark. -/
theorem head?_plainGroup (body : String) (rest : List Char) :
    ((plainGroup body).toList ++ rest).head? ≠ some '?' := by
  simp [toList_plainGroup]

/-- A pattern can stand behind an opening parenthesis, since it does not begin with a question
mark. -/
theorem head?_render {p : ScopedPattern} (h : ∀ source ∈ p.sources, GroupFree source) :
    p.render.toList.head? ≠ some '?' := by
  induction p with
  | literal text => exact head?_quote text
  | regex source times =>
    obtain ⟨_, hsource⟩ := h source List.mem_cons_self
    rw [render, renderRegex]
    split
    · rw [String.toList_append]
      exact head?_plainGroup source _
    · split
      · simpa using head?_plainGroup source []
      · exact hsource
  | sequence left right ihl ihr =>
    obtain ⟨hleft, hright⟩ := List.forall_mem_append.mp h
    rw [render, String.toList_append]
    cases hchars : left.render.toList with
    | nil => exact ihr hright
    | cons c cs => simpa [hchars] using ihl hleft
  | repeated operator body =>
    rw [render, String.toList_append]
    exact head?_plainGroup _ _
  | notAhead body =>
    have hparts : (notAhead body).render = "(?!" ++ body.render ++ ")" := rfl
    rw [hparts]
    simp
  | group body => simpa [render] using head?_plainGroup body.render []
  | capture scope body =>
    have hparts : (capture scope body).render = "(" ++ body.render ++ ")" := rfl
    rw [hparts]
    simp

/-- The groups of a pattern are those of its scopes. -/
theorem hasGroups_render {p : ScopedPattern} (h : ∀ source ∈ p.sources, GroupFree source) :
    HasGroups p.render.toList (p.captured.map fun entry => entry.2.render) := by
  induction p with
  | literal text => exact .quote text
  | regex source times => exact hasGroups_renderRegex (h source List.mem_cons_self) times
  | sequence left right ihl ihr =>
    obtain ⟨hleft, hright⟩ := List.forall_mem_append.mp h
    rw [render, String.toList_append, captured, List.map_append]
    exact (ihl hleft).append (ihr hright)
  | repeated operator body ih =>
    rw [render, String.toList_append]
    simpa [captured] using (hasGroups_plainGroup (ih h)).append (hasGroups_symbol operator)
  | notAhead body ih =>
    have hparts : (notAhead body).render = "(?!" ++ body.render ++ ")" := rfl
    rw [hparts, String.toList_append, String.toList_append]
    exact (ih h).group rfl rfl
  | group body ih => exact hasGroups_plainGroup (ih h)
  | capture scope body ih =>
    have hparts : (capture scope body).render = "(" ++ body.render ++ ")" := rfl
    have hgroups := (ih h).capture (head?_render (p := body) h)
    rw [String.ofList_toList] at hgroups
    rw [hparts, String.toList_append, String.toList_append]
    exact hgroups

/-- The captures of a pattern number its scopes from one on. -/
theorem getElem?_captures {p : ScopedPattern} {k : Nat} {c : Capture}
    (h : p.captures[k]? = some c) :
    c.index = k + 1 ∧ ∃ body, p.captured[k]? = some (c.scope, body) := by
  rw [captures, List.getElem?_mapIdx, ← map_fst_captured, List.getElem?_map] at h
  cases hentry : p.captured[k]? with
  | none => simp [hentry] at h
  | some entry =>
    rw [hentry] at h
    cases h
    exact ⟨rfl, entry.2, rfl⟩

/-- There is a capture for each captured pattern. -/
theorem length_captures (p : ScopedPattern) : p.captures.length = p.captured.length := by
  rw [captures, List.length_mapIdx, ← map_fst_captured, List.length_map]

end ScopedPattern

namespace Element

variable {rule : String} {follow follow' : Reference → Except DerivationError ScopedPattern}
  {e : Element} {p : ScopedPattern}

/-- What is derived from an element depends on its references only through what they lead to. -/
theorem derive_mono (hfollow : ∀ {r p}, follow r = .ok p → follow' r = .ok p)
    (h : e.derive rule follow = .ok p) : e.derive rule follow' = .ok p := by
  induction e generalizing p with
  | text | number | boolean | regex => exact h
  | reference => exact hfollow h
  | sequence _ left right ihl ihr =>
    simp only [derive, bind_eq_ok_iff] at h ⊢
    obtain ⟨l, hl, r, hr, h⟩ := h
    exact ⟨l, ihl hl, r, ihr hr, h⟩
  | choice => cases h
  | optional _ body ih | zeroOrMore _ body ih | oneOrMore _ body ih | not _ body ih =>
    simp only [derive, bind_eq_ok_iff] at h ⊢
    obtain ⟨b, hb, h⟩ := h
    exact ⟨b, ih hb, h⟩
  | marked _ _ body ih => exact ih h

/-- The scopes in the pattern of an element come from its references. -/
theorem captured_of_derive {P : String × ScopedPattern → Prop}
    (hfollow : ∀ {r p}, follow r = .ok p → ∀ entry ∈ p.captured, P entry)
    (h : e.derive rule follow = .ok p) : ∀ entry ∈ p.captured, P entry := by
  induction e generalizing p with
  | text | number | boolean | regex =>
    cases h
    simp [ScopedPattern.captured]
  | reference => exact hfollow h
  | sequence _ left right ihl ihr =>
    simp only [derive, bind_eq_ok_iff] at h
    obtain ⟨l, hl, r, hr, h⟩ := h
    cases h
    exact List.forall_mem_append.mpr ⟨ihl hl, ihr hr⟩
  | choice => cases h
  | optional _ body ih | zeroOrMore _ body ih | oneOrMore _ body ih | not _ body ih =>
    simp only [derive, bind_eq_ok_iff] at h
    obtain ⟨b, hb, h⟩ := h
    cases h
    have hbody := ih hb
    exact hbody
  | marked _ _ body ih => exact ih h

end Element

namespace Grammar

variable {g : Grammar} {suffix : Option String} {d : Definition} {p : ScopedPattern}
  {r : Reference} {budget budget' : Nat} {expanding expanding' : List Nat}

/-- A definition that can be expanded inside others can be expanded on its own. -/
theorem deriveReference_mono (hbudget : budget ≤ budget') (hsub : expanding' ⊆ expanding)
    (h : g.deriveReference suffix budget expanding r = .ok p) :
    g.deriveReference suffix budget' expanding' r = .ok p := by
  induction budget generalizing budget' expanding expanding' r p with
  | zero => cases h
  | succ budget ih =>
    obtain ⟨budget', rfl⟩ : ∃ n, budget' = n + 1 := ⟨budget' - 1, by omega⟩
    simp only [deriveReference] at h ⊢
    split at h
    · cases h
    next d hfind =>
      split at h
      · cases h
      next hnew =>
        obtain ⟨body, hbody, h⟩ := bind_eq_ok_iff.mp h
        have hnew' : ¬ expanding'.contains d.id = true := fun hmem =>
          hnew (List.contains_iff_mem.mpr (hsub (List.contains_iff_mem.mp hmem)))
        have hbody' : d.body.derive d.name
            (g.deriveReference suffix budget' (d.id :: expanding')) = .ok body :=
          Element.derive_mono (ih (by omega) (List.cons_subset_cons d.id hsub)) hbody
        rw [if_neg hnew']
        exact bind_eq_ok_iff.mpr ⟨body, hbody', h⟩

/-- A scope and the pattern of the body of a definition that has this scope. -/
def IsScopeOf (g : Grammar) (suffix : Option String) (entry : String × ScopedPattern) : Prop :=
  ∃ e ∈ g.definitions, e.scope? suffix = some entry.1 ∧ g.deriveBody suffix e = .ok entry.2

/-- Every scope in the pattern of a reference is that of a definition. -/
theorem captured_of_deriveReference (hbudget : budget ≤ g.size + 1)
    (h : g.deriveReference suffix budget expanding r = .ok p) :
    ∀ entry ∈ p.captured, g.IsScopeOf suffix entry := by
  induction budget generalizing expanding r p with
  | zero => cases h
  | succ budget ih =>
    simp only [deriveReference] at h
    split at h
    · cases h
    next d hfind =>
      split at h
      · cases h
      · obtain ⟨body, hbody, h⟩ := bind_eq_ok_iff.mp h
        cases h
        have hinner := Element.captured_of_derive (ih (by omega)) hbody
        have hown : g.deriveBody suffix d = .ok body := by
          refine Element.derive_mono (fun hfollow => ?_) hbody
          exact deriveReference_mono (by omega) (by simp) hfollow
        intro entry hentry
        rw [Definition.enclose] at hentry
        split at hentry
        · exact hinner entry hentry
        · split at hentry
          next scope hscope =>
            rcases List.mem_cons.mp hentry with rfl | hentry
            · exact ⟨d, mem_of_find? hfind, hscope, hown⟩
            · exact hinner entry hentry
          · exact hinner entry hentry

/-- Whatever is captured in the pattern of a body has the scope of some definition. -/
theorem captured_of_deriveBody (h : g.deriveBody suffix d = .ok p) :
    ∀ entry ∈ p.captured, g.IsScopeOf suffix entry :=
  Element.captured_of_derive (captured_of_deriveReference (Nat.le_refl _)) h

/-- Whatever is captured in the pattern of a definition has the scope of some definition. -/
theorem captured_of_deriveScoped (hd : d ∈ g.definitions) (h : g.deriveScoped suffix d = .ok p) :
    ∀ entry ∈ p.captured, g.IsScopeOf suffix entry := by
  obtain ⟨body, hbody, h⟩ := bind_eq_ok_iff.mp h
  have hinner := captured_of_deriveBody hbody
  split at h
  next scope hscope =>
    cases h
    exact List.forall_mem_cons.mpr ⟨⟨d, hd, hscope, hbody⟩, hinner⟩
  · cases h
    exact hinner

/-- If the regular expressions of the author have no capturing groups then the pattern of a
definition has just as many of them as captures. The capture at each place has the number of the
group, and it is for the scope of the definition whose pattern the group encloses. -/
theorem captures_number_groups (hd : d ∈ g.definitions)
    (h : g.deriveBody suffix d = .ok p ∨ g.deriveScoped suffix d = .ok p)
    (hsources : ∀ source ∈ p.sources, Regex.GroupFree source) :
    ∃ groups, Regex.capturingGroups? p.render = some groups ∧
      groups.length = p.captures.length ∧
      ∀ (k : Nat) (c : Capture), p.captures[k]? = some c → c.index = k + 1 ∧
        ∃ e ∈ g.definitions, ∃ body, e.scope? suffix = some c.scope ∧
          g.deriveBody suffix e = .ok body ∧ groups[k]? = some body.render := by
  have hcaptured : ∀ entry ∈ p.captured, g.IsScopeOf suffix entry := by
    rcases h with h | h
    · exact captured_of_deriveBody h
    · exact captured_of_deriveScoped hd h
  refine ⟨p.captured.map fun entry => entry.2.render, ?_, ?_, ?_⟩
  · exact (ScopedPattern.hasGroups_render hsources).capturingGroups?
  · rw [List.length_map, p.length_captures]
  · intro k c hc
    obtain ⟨hindex, body, hbody⟩ := ScopedPattern.getElem?_captures hc
    obtain ⟨e, he, hscope, hderive⟩ := hcaptured _ (List.mem_of_getElem? hbody)
    exact ⟨hindex, e, he, body, hscope, hderive, by rw [List.getElem?_map, hbody]; rfl⟩

/-- A definition of a word, which has a scope. -/
def wordDefinition : Definition :=
  ⟨1, .rule, "Word", ⟨44, 48⟩, .regex ⟨51, 59⟩ "[a-z]+" 1,
    [⟨"scope", ⟨61, 66⟩, .text "string", ⟨61, 77⟩⟩], ⟨44, 79⟩⟩

/-- A definition for highlighting with a scope: a regular expression of the author and a word. -/
def itemDefinition (source : String) : Definition :=
  ⟨0, .highlight, "Item", ⟨3, 7⟩,
    .sequence ⟨10, 20⟩ (.regex ⟨10, 15⟩ source 1) (.reference ⟨16, 20⟩ "Word"),
    [⟨"scope", ⟨22, 27⟩, .text "meta.item", ⟨22, 41⟩⟩], ⟨0, 43⟩⟩

/-- An item in front of a word, with a regular expression of the author. -/
def itemGrammar (source : String) : Grammar where
  definitions := [itemDefinition source, wordDefinition]
  options := []
  numbered := rfl
  distinct := show (["Item", "Word"].map Text.LetterCase.lowerText).Nodup by decide

/-- The pattern of an item. -/
def itemPattern (source : String) : ScopedPattern :=
  .capture "meta.item" (.sequence (.regex source 1) (.capture "string" (.regex "[a-z]+" 1)))

/-- The scopes of an item and of a word stand for the two groups of its pattern. -/
theorem itemGrammar_groups :
    itemDefinition "-" ∈ (itemGrammar "-").definitions ∧
      (itemGrammar "-").deriveScoped none (itemDefinition "-") = .ok (itemPattern "-") ∧
      (∀ source ∈ (itemPattern "-").sources, Regex.GroupFree source) ∧
      (itemPattern "-").captures = [⟨1, "meta.item"⟩, ⟨2, "string"⟩] ∧
      ∃ groups, Regex.capturingGroups? (itemPattern "-").render = some groups ∧
        groups.length = 2 ∧
        ∃ e ∈ (itemGrammar "-").definitions, ∃ body, e.scope? none = some "string" ∧
          (itemGrammar "-").deriveBody none e = .ok body ∧ groups[1]? = some body.render := by
  have hd : itemDefinition "-" ∈ (itemGrammar "-").definitions := List.mem_cons_self
  have hderive : (itemGrammar "-").deriveScoped none (itemDefinition "-") =
      .ok (itemPattern "-") := rfl
  have hsources : ∀ source ∈ (itemPattern "-").sources, Regex.GroupFree source := by decide
  obtain ⟨groups, hgroups, hlength, hcaptures⟩ := captures_number_groups hd (.inr hderive) hsources
  obtain ⟨_, hword⟩ := hcaptures 1 ⟨2, "string"⟩ rfl
  exact ⟨hd, hderive, hsources, rfl, groups, hgroups, hlength, hword⟩

/-- A group of the author takes the number that the scope of a word is listed with, and there is one
group more than there are captures. -/
theorem itemGrammar_group_of_author :
    (itemGrammar "(a)").deriveScoped none (itemDefinition "(a)") = .ok (itemPattern "(a)") ∧
      (itemPattern "(a)").captures = [⟨1, "meta.item"⟩, ⟨2, "string"⟩] ∧
      (itemGrammar "(a)").deriveBody none wordDefinition = .ok (.regex "[a-z]+" 1) ∧
      (ScopedPattern.regex "[a-z]+" 1).render = "[a-z]+" ∧
      ∃ groups, Regex.capturingGroups? (itemPattern "(a)").render = some groups ∧
        groups.length ≠ (itemPattern "(a)").captures.length ∧ groups[1]? = some "a" := by
  refine ⟨rfl, rfl, rfl, by decide, ["(a)([a-z]+)", "a", "[a-z]+"], ?_, by decide, rfl⟩
  decide

end Grammar

end Peg
