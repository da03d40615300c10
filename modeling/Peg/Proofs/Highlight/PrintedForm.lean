import Peg.Proofs.Highlight.GroupNumbers

/-!
# How patterns are written

The text of a pattern has to be read with the precedences of regular expressions: an operator
applies to the one unit in front of it, a row ends where a choice begins, and parentheses make a
unit of whatever they enclose. What may be written for a pattern is laid down here by these rules
alone, and the text of a pattern without lookaheads keeps to them. A regular expression of the
author stands for itself, whatever is inside it.
-/

namespace Peg

namespace Regex

/-- The operators that apply to what is in front of them. -/
def operators : List Char :=
  ['?', '*', '+', '\x7b']

/-- The characters that do not stand for themselves outside of brackets. -/
def specialCharacters : List Char :=
  operators ++ ['\\', '.', '^', '$', '(', ')', '|', '[']

/-- No operator is at the front, so the text can stand behind any other one. -/
def BeginsApart (cs : List Char) : Prop :=
  ∀ c ∈ cs.head?, c ∉ operators

/-- Two texts without an operator at the front have none there when joined. -/
theorem BeginsApart.append {front back : List Char} (hfront : BeginsApart front)
    (hback : BeginsApart back) : BeginsApart (front ++ back) := by
  cases front with
  | nil => exact hback
  | cons c front => exact hfront

/-- A pattern cannot be read that has an operator at its front. -/
theorem parse_of_operator {c : Char} (hc : c ∈ operators) {pattern : String} {rest : List Char}
    (hpattern : pattern.toList = c :: rest) : parse pattern = .error .repetitionMissing := by
  have hread : (Scanner.alternatives false (pattern.toList.length + 1) [] []).run
      ⟨pattern.toList, false, []⟩ = .error .repetitionMissing := by
    rw [hpattern]
    simp only [operators, List.mem_cons, List.not_mem_nil, or_false] at hc
    rcases hc with rfl | rfl | rfl | rfl
    · rfl
    · rfl
    · rfl
    · rfl
  simp only [parse, hread]
  rfl

/-- A pattern that compiles has no operator at its front. -/
theorem beginsApart_of_compile {source : String} {automaton : Automaton}
    (h : compile source = .ok automaton) : BeginsApart source.toList := by
  intro c hhead hoperator
  obtain ⟨rest, hsource⟩ : ∃ rest, source.toList = c :: rest := by
    cases hchars : source.toList with
    | nil => simp [hchars] at hhead
    | cons first rest =>
      rw [hchars] at hhead
      cases hhead
      exact ⟨rest, rfl⟩
  rw [compile, parse_of_operator hoperator hsource] at h
  cases h

/-- A text is spelled as a pattern that matches just this text. -/
inductive Spells : List Char → List Char → Prop where
  | nil : Spells [] []
  | plain {c : Char} {text written : List Char} : c ∉ specialCharacters → Spells text written →
      Spells (c :: text) (c :: written)
  | escaped {c : Char} {text written : List Char} : Scanner.isEscapable c = true →
      Spells text written → Spells (c :: text) ('\\' :: c :: written)

/-- A quoted text spells the text it quotes. -/
theorem spells_quote (text : List Char) : Spells text (text.flatMap quoteChar) := by
  have hescapable : metaCharacters.all Scanner.isEscapable = true := rfl
  have hspecial : specialCharacters.all metaCharacters.contains = true := rfl
  induction text with
  | nil => exact .nil
  | cons c text ih =>
    rw [List.flatMap_cons, quoteChar]
    cases hmeta : metaCharacters.contains c with
    | true =>
      rw [if_pos rfl]
      exact .escaped (List.all_eq_true.mp hescapable c (List.contains_iff_mem.mp hmeta)) ih
    | false =>
      have hplain : c ∉ specialCharacters := fun hmem =>
        Bool.eq_false_iff.mp hmeta (List.all_eq_true.mp hspecial c hmem)
      rw [if_neg Bool.false_ne_true]
      exact .plain hplain ih

/-- A text that is spelled with escapes has no operator at its front. -/
theorem Spells.beginsApart {text written : List Char} (h : Spells text written) :
    BeginsApart written := by
  cases h with
  | nil => exact nofun
  | plain hplain =>
    rintro _ ⟨⟩ hoperator
    exact hplain (List.mem_append_left _ hoperator)
  | escaped =>
    rintro _ ⟨⟩
    decide

end Regex

/-- How firmly the text of a pattern holds together. -/
inductive Binding where
  /-- An operator behind the text applies to all of it. -/
  | unit
  /-- The text can stand in a row with other texts. -/
  | row
  /-- The text has to be enclosed before it can stand next to other texts. -/
  | choice
  deriving DecidableEq, Repr

namespace ScopedPattern

open Regex

/-- A text in parentheses that have no number. -/
def parenthesized (text : List Char) : List Char :=
  "(?:".toList ++ text ++ [')']

/-- A text that may be written for a pattern, and how firmly it holds together. A lookahead cannot
be written. -/
inductive Written : ScopedPattern → Binding → List Char → Prop where
  | literal {text : String} {w : List Char} : Spells text.toList w → Written (.literal text) .row w
  /-- What the author wrote, as long as it cannot apply to anything in front of it. -/
  | author {source : String} : BeginsApart source.toList →
      Written (.regex source 1) .choice source.toList
  | authorRow {source : String} : BeginsApart source.toList → isChoice source = false →
      Written (.regex source 1) .row source.toList
  | counted {source : String} {times : Nat} : 1 < times → BeginsApart source.toList →
      Written (.regex source times) .row
        (parenthesized source.toList ++ '\x7b' :: (Nat.toDigits 10 times ++ ['\x7d']))
  | enclosed {p : ScopedPattern} {b : Binding} {w : List Char} : Written p b w →
      Written p .unit (parenthesized w)
  | sequence {left right : ScopedPattern} {b b' : Binding} {w w' : List Char} :
      Written left b w → Written right b' w' → b ≠ .choice → b' ≠ .choice →
      Written (.sequence left right) .row (w ++ w')
  | repeated {operator : SuffixOperator} {body : ScopedPattern} {w : List Char} :
      Written body .unit w → Written (.repeated operator body) .row (w ++ operator.symbol.toList)
  | group {body : ScopedPattern} {b : Binding} {w : List Char} : Written body b w →
      Written (.group body) .unit (parenthesized w)
  /-- Behind the parenthesis of a group with a number there is no question mark. -/
  | capture {scope : String} {body : ScopedPattern} {b : Binding} {w : List Char} :
      Written body b w → w.head? ≠ some '?' →
      Written (.capture scope body) .unit ('(' :: w ++ [')'])

/-- A unit is in parentheses. -/
theorem Written.head?_unit {p : ScopedPattern} {w : List Char} (h : p.Written .unit w) :
    w.head? = some '(' := by
  cases h with
  | enclosed => rfl
  | group => rfl
  | capture => rfl

/-- What is written for a pattern can stand behind any text. -/
theorem Written.beginsApart {p : ScopedPattern} {b : Binding} {w : List Char}
    (h : p.Written b w) : BeginsApart w := by
  have hparenthesis : ∀ {w : List Char}, w.head? = some '(' → BeginsApart w := by
    intro w hhead c hc
    obtain rfl := Option.some.inj (hhead.symm.trans hc)
    decide
  induction h with
  | literal hspells => exact hspells.beginsApart
  | author hsource => exact hsource
  | authorRow hsource => exact hsource
  | counted => exact hparenthesis rfl
  | sequence _ _ _ _ ihl ihr => exact ihl.append ihr
  | repeated hbody => exact hparenthesis (by simp [List.head?_append, hbody.head?_unit])
  | enclosed => exact hparenthesis rfl
  | group => exact hparenthesis rfl
  | capture => exact hparenthesis rfl

/-- There is no lookahead in a pattern, and the regular expressions of the author are well-formed
and applied at least once. -/
def IsPlain : ScopedPattern → Prop
  | .literal _ => True
  | .regex source times => 0 < times ∧ ∃ automaton, Regex.compile source = .ok automaton
  | .sequence left right => left.IsPlain ∧ right.IsPlain
  | .repeated _ body | .group body | .capture _ body => body.IsPlain
  | .notAhead _ => False

/-- A regular expression of the author is written so that it can stand in a row. -/
theorem written_renderRegex {source : String} (hsource : BeginsApart source.toList) {times : Nat}
    (hpositive : 0 < times) : ∃ b, b ≠ .choice ∧
      (ScopedPattern.regex source times).Written b (renderRegex source times).toList := by
  rw [renderRegex]
  by_cases hcount : 1 < times
  · rw [if_pos hcount, String.toList_append, toList_plainGroup, toList_times]
    exact ⟨.row, Binding.noConfusion, .counted hcount hsource⟩
  · obtain rfl : times = 1 := by omega
    rw [if_neg hcount]
    cases hchoice : isChoice source with
    | true =>
      rw [if_pos rfl, toList_plainGroup]
      exact ⟨.unit, Binding.noConfusion, .enclosed (.author hsource)⟩
    | false => exact ⟨.row, Binding.noConfusion, .authorRow hsource hchoice⟩

/-- A group is a unit, whatever its body is. -/
theorem written_group {body : ScopedPattern} {b : Binding}
    (h : body.Written b body.render.toList) :
    (group body).Written .unit (group body).render.toList := by
  rw [render, toList_plainGroup]
  exact .group h

/-- A capture is a unit, whatever its body is. -/
theorem written_capture {body : ScopedPattern} {b : Binding}
    (h : body.Written b body.render.toList) (scope : String) :
    (capture scope body).Written .unit (capture scope body).render.toList := by
  have hquestion : body.render.toList.head? ≠ some '?' := fun hhead =>
    h.beginsApart '?' hhead (by decide)
  have hparts : (capture scope body).render = "(" ++ body.render ++ ")" := rfl
  rw [hparts, String.toList_append, String.toList_append]
  exact .capture h hquestion

/-- The text of a plain pattern is written as the rules have it, and it can stand in a row. -/
theorem IsPlain.written_render {p : ScopedPattern} (h : p.IsPlain) :
    ∃ b, b ≠ .choice ∧ p.Written b p.render.toList := by
  induction p with
  | literal text =>
    rw [render, Regex.quote, String.toList_ofList]
    exact ⟨.row, Binding.noConfusion, .literal (spells_quote _)⟩
  | regex source times =>
    obtain ⟨hpositive, automaton, hcompile⟩ := h
    exact written_renderRegex (beginsApart_of_compile hcompile) hpositive
  | sequence left right ihl ihr =>
    obtain ⟨b, hb, hleft⟩ := ihl h.1
    obtain ⟨b', hb', hright⟩ := ihr h.2
    rw [render, String.toList_append]
    exact ⟨.row, Binding.noConfusion, .sequence hleft hright hb hb'⟩
  | repeated operator body ih =>
    obtain ⟨b, _, hbody⟩ := ih h
    rw [render, String.toList_append, toList_plainGroup]
    exact ⟨.row, Binding.noConfusion, .repeated (.enclosed hbody)⟩
  | notAhead => exact h.elim
  | group body ih =>
    obtain ⟨b, _, hbody⟩ := ih h
    exact ⟨.unit, Binding.noConfusion, written_group hbody⟩
  | capture scope body ih =>
    obtain ⟨b, _, hbody⟩ := ih h
    exact ⟨.unit, Binding.noConfusion, written_capture hbody scope⟩

end ScopedPattern

end Peg
