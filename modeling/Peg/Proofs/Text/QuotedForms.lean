import Peg.Grammar.Reduction
import Peg.Parse.Tree
import Peg.Proofs.Text.Escapes

/-!
# Quoted texts

What is written between double quotes can be told from everything behind it, and decoding it gives
the text back. So a literal denotes the text that it quotes, and a printed form in which texts are
quoted shows which texts they are.
-/

namespace Peg

namespace Text

namespace Escape

/-- A character is written by a sequence that stands for it, or it stands for itself. -/
theorem encodeChar_cases (c : Char) :
    Denotes (encodeChar c) c ∨ (encodeChar c = [c] ∧ c ≠ '\\' ∧ c ≠ '"') := by
  have hshort (letter d : Char) (hc : c = d) (h : (letter, d) ∈ letters) :
      Denotes ['\\', letter] c := hc ▸ .letter h
  fun_cases encodeChar c with
  | case1 hc => exact .inl (hshort _ _ hc (by decide))
  | case2 _ hc => exact .inl (hshort _ _ hc (by decide))
  | case3 _ _ hc => exact .inl (hshort _ _ hc (by decide))
  | case4 _ _ _ hc => exact .inl (hshort _ _ hc (by decide))
  | case5 _ _ _ _ hc => exact .inl (hshort _ _ hc (by decide))
  | case6 _ _ _ _ _ hcontrol =>
    have hlt : c.toNat < 16 ^ 4 := by
      simp only [isControl, Bool.or_eq_true, Bool.and_eq_true, decide_eq_true_eq] at hcontrol
      omega
    have hlength := Hex.length_paddedDigits (by decide) hlt
    obtain ⟨written, hwritten, heq⟩ :=
      Hex.valueAfter?_eq_some_iff.mp (Hex.valueAfter?_paddedDigits 4 c.toNat)
    rw [Nat.zero_mul, Nat.zero_add] at heq
    have hbraces : Denotes ('\\' :: 'u' :: '{' :: (Hex.paddedDigits 4 c.toNat ++ ['}'])) c :=
      .braces (by omega) (by omega) (heq ▸ hwritten)
    exact .inl hbraces
  | case7 _ _ _ hbackslash hquote => exact .inr ⟨rfl, hbackslash, hquote⟩

/-- Decoding undoes the encoding of a character, whatever follows. -/
theorem decodeFirst?_encodeChar (c : Char) (rest : List Char) :
    decodeFirst? (encodeChar c ++ rest) = some (c, rest) := by
  rcases encodeChar_cases c with h | ⟨h, hbackslash, -⟩
  · exact decodeFirst?_append (.inl h) rest
  · rw [h]
    exact decodeFirst?_cons fun _ _ hs => hs.not_prefix_cons hbackslash

/-- No character is written with a double quote in front. -/
theorem encodeChar_append_ne (c : Char) (rest rest' : List Char) :
    encodeChar c ++ rest ≠ '"' :: rest' := by
  rcases encodeChar_cases c with h | ⟨h, -, hquote⟩
  · obtain ⟨t, ht⟩ := Known.eq_cons (.inl h)
    simp [ht]
  · simp [h, hquote]

/-- An escaped text is decoded to the end, whatever stands behind it. -/
theorem decodeFrom_flatMap_append (text rest : List Char) :
    decodeFrom 0 (text.flatMap encodeChar ++ rest) = text ++ decodeFrom 0 rest := by
  induction text with
  | nil => rfl
  | cons c text ih =>
    rw [List.flatMap_cons, List.append_assoc,
      decodeFrom_of_decodeFirst? (decodeFirst?_encodeChar c _), ih, List.cons_append]

/-- An escaped text ends where a double quote stands. -/
theorem flatMap_encodeChar_cancel {text text' rest rest' : List Char}
    (h : text.flatMap encodeChar ++ '"' :: rest = text'.flatMap encodeChar ++ '"' :: rest') :
    text = text' ∧ rest = rest' := by
  induction text generalizing text' with
  | nil =>
    cases text' with
    | nil => exact ⟨rfl, List.tail_eq_of_cons_eq h⟩
    | cons d text' =>
      rw [List.flatMap_cons, List.append_assoc] at h
      exact absurd h.symm (encodeChar_append_ne d _ rest)
  | cons c text ih =>
    rw [List.flatMap_cons, List.append_assoc] at h
    cases text' with
    | nil => exact absurd h (encodeChar_append_ne c _ rest')
    | cons d text' =>
      rw [List.flatMap_cons, List.append_assoc] at h
      have hfirst := decodeFirst?_encodeChar c (text.flatMap encodeChar ++ '"' :: rest)
      rw [h, decodeFirst?_encodeChar] at hfirst
      simp only [Option.some.injEq, Prod.mk.injEq] at hfirst
      obtain ⟨rfl, rfl⟩ := ih hfirst.2.symm
      exact ⟨by rw [hfirst.1], rfl⟩

end Escape

/-- A quoted text has its encoded characters between quotation marks. -/
theorem toList_quote (text : String) :
    (quote text).toList = '"' :: (text.toList.flatMap Escape.encodeChar ++ ['"']) := by
  simp [quote, escape]

/-- Unescaping undoes escaping. -/
theorem unescape_escape (text : String) : unescape (escape text) = text := by
  have h := Escape.decodeFrom_flatMap_append text.toList []
  rw [List.append_nil] at h
  simp [unescape, escape, h, Escape.decodeFrom]

/-- A quoted text can be told from what stands behind it. -/
theorem quote_append_cancel {text text' : String} {rest rest' : List Char}
    (h : (quote text).toList ++ rest = (quote text').toList ++ rest') :
    text = text' ∧ rest = rest' := by
  simp only [toList_quote, List.cons_append, List.append_assoc, List.nil_append,
    List.cons.injEq, true_and] at h
  obtain ⟨htext, hrest⟩ := Escape.flatMap_encodeChar_cancel h
  exact ⟨String.toList_inj.mp htext, hrest⟩

end Text

open Text

namespace Reduction

/-- Delimiters on both sides of a text are stripped. -/
theorem stripDelimiters_of_mem {delimiters : List Char} {d : Char} (h : d ∈ delimiters)
    (text : List Char) : stripDelimiters delimiters (d :: (text ++ [d])) = text := by
  cases text with
  | nil => simp [stripDelimiters, h]
  | cons c text =>
    rw [List.cons_append, stripDelimiters, ← List.cons_append, List.getLast?_concat,
      List.dropLast_concat]
    simp [h]

/-- The value of a quoted text is the text. -/
theorem literalValue_quote (text : String) : literalValue (quote text) = text := by
  rw [literalValue, toList_quote, stripDelimiters_of_mem (by decide)]
  exact unescape_escape text

end Reduction

namespace Element

/-- The element with nothing in its literals. -/
def withoutTexts : Element → Element
  | .text span _ => .text span ""
  | .sequence span left right => .sequence span left.withoutTexts right.withoutTexts
  | .choice span left right => .choice span left.withoutTexts right.withoutTexts
  | .optional span body => .optional span body.withoutTexts
  | .zeroOrMore span body => .zeroOrMore span body.withoutTexts
  | .oneOrMore span body => .oneOrMore span body.withoutTexts
  | .not span body => .not span body.withoutTexts
  | .marked span marker body => .marked span marker body.withoutTexts
  | element => element

/-- Elements that differ only in their texts can be told apart, whatever stands behind them. -/
theorem render_append_cancel {e e' : Element} (hshape : e.withoutTexts = e'.withoutTexts)
    {rest rest' : List Char}
    (h : e.render.toList ++ rest = e'.render.toList ++ rest') : e = e' ∧ rest = rest' := by
  -- What is behind a part of the element belongs to the rest for this part.
  induction e generalizing e' rest rest' with
  | text span text =>
    cases e' <;> cases hshape
    obtain ⟨rfl, rfl⟩ := quote_append_cancel h
    exact ⟨rfl, rfl⟩
  | regex | number | boolean | reference =>
    cases e' <;> cases hshape
    exact ⟨rfl, List.append_cancel_left h⟩
  | sequence span left right ihleft ihright | choice span left right ihleft ihright =>
    cases e' <;>
      simp only [withoutTexts, reduceCtorEq, sequence.injEq, choice.injEq] at hshape
    obtain ⟨rfl, hleft, hright⟩ := hshape
    simp only [render, toString, String.toList_append, List.append_assoc,
      List.append_cancel_left_eq] at h
    obtain ⟨rfl, hright'⟩ := ihleft hleft h
    obtain ⟨rfl, hrest⟩ := ihright hright (List.append_cancel_left hright')
    exact ⟨rfl, List.append_cancel_left hrest⟩
  | optional span body ih | zeroOrMore span body ih | oneOrMore span body ih | not span body ih =>
    cases e' <;>
      simp only [withoutTexts, reduceCtorEq, optional.injEq, zeroOrMore.injEq, oneOrMore.injEq,
        not.injEq] at hshape
    obtain ⟨rfl, hbody⟩ := hshape
    simp only [render, toString, String.toList_append, List.append_assoc,
      List.append_cancel_left_eq] at h
    obtain ⟨rfl, hrest⟩ := ih hbody h
    exact ⟨rfl, List.append_cancel_left hrest⟩
  | marked span marker body ih =>
    cases e' <;> simp only [withoutTexts, reduceCtorEq, marked.injEq] at hshape
    obtain ⟨rfl, rfl, hbody⟩ := hshape
    simp only [render, toString, String.toList_append, List.append_assoc,
      List.append_cancel_left_eq] at h
    obtain ⟨rfl, hrest⟩ := ih hbody h
    exact ⟨rfl, List.append_cancel_left hrest⟩

end Element

namespace ParseTree

mutual

/-- The tree with no texts in its nodes. -/
def withoutTexts : ParseTree → ParseTree
  | ⟨rule, _, start, stop, children⟩ => ⟨rule, "", start, stop, withoutTextsOfAll children⟩

/-- The trees with no texts in their nodes. -/
def withoutTextsOfAll : List ParseTree → List ParseTree
  | [] => []
  | t :: ts => t.withoutTexts :: withoutTextsOfAll ts

end

/-- The line of a node ends where the line does. -/
theorem headline_append_cancel {rule : Option String} {text text' : String} {start stop : Nat}
    {children children' : List ParseTree} {rest rest' : List Char}
    (h : (headline ⟨rule, text, start, stop, children⟩).toList ++ '\n' :: rest =
      (headline ⟨rule, text', start, stop, children'⟩).toList ++ '\n' :: rest') :
    text = text' ∧ rest = rest' := by
  cases rule with
  | none =>
    simp only [headline, toString, String.toList_append, List.append_assoc] at h
    obtain ⟨rfl, hrest⟩ := quote_append_cancel h
    simp only [List.append_cancel_left_eq, List.cons.injEq, true_and] at hrest
    exact ⟨rfl, hrest⟩
  | some name =>
    simp only [headline, toString, String.toList_append, List.append_assoc,
      List.append_cancel_left_eq] at h
    -- A node without text shows none, so its line ends where the text of another one would stand.
    by_cases htext : text.isEmpty <;> by_cases htext' : text'.isEmpty
    · rw [if_pos htext, if_pos htext'] at h
      rw [String.isEmpty_iff.mp htext, String.isEmpty_iff.mp htext']
      exact ⟨rfl, List.tail_eq_of_cons_eq h⟩
    · rw [if_pos htext, if_neg htext', String.toList_append] at h
      cases h
    · rw [if_neg htext, if_pos htext', String.toList_append] at h
      cases h
    · rw [if_neg htext, if_neg htext', String.toList_append, String.toList_append,
        List.append_assoc, List.append_assoc] at h
      obtain ⟨rfl, hrest⟩ := quote_append_cancel (List.append_cancel_left h)
      exact ⟨rfl, List.tail_eq_of_cons_eq hrest⟩

mutual

/-- A tree of a known shape can be told from its outline, whatever follows. -/
theorem outlineAt_append_cancel {t t' : ParseTree} (hshape : t.withoutTexts = t'.withoutTexts)
    {depth : Nat} {rest rest' : List Char}
    (h : (t.outlineAt depth).toList ++ rest = (t'.outlineAt depth).toList ++ rest') :
    t = t' ∧ rest = rest' := by
  obtain ⟨rule, text, start, stop, children⟩ := t
  obtain ⟨rule', text', start', stop', children'⟩ := t'
  simp only [withoutTexts, mk.injEq, true_and] at hshape
  obtain ⟨rfl, rfl, rfl, hchildren⟩ := hshape
  simp only [outlineAt, String.toList_append, List.append_assoc, List.append_cancel_left_eq] at h
  obtain ⟨rfl, hlines⟩ := headline_append_cancel h
  obtain ⟨rfl, hrest⟩ := outlineOfAll_append_cancel hchildren hlines
  exact ⟨rfl, hrest⟩

/-- Trees of known shapes can be told from their outlines, whatever follows. -/
theorem outlineOfAll_append_cancel {ts ts' : List ParseTree}
    (hshape : withoutTextsOfAll ts = withoutTextsOfAll ts') {depth : Nat} {rest rest' : List Char}
    (h : (outlineOfAll depth ts).toList ++ rest = (outlineOfAll depth ts').toList ++ rest') :
    ts = ts' ∧ rest = rest' := by
  cases ts with
  | nil =>
    cases ts' with
    | nil => exact ⟨rfl, h⟩
    | cons => cases hshape
  | cons t ts =>
    cases ts' with
    | nil => cases hshape
    | cons t' ts' =>
      simp only [withoutTextsOfAll, List.cons.injEq] at hshape
      simp only [outlineOfAll, String.toList_append, List.append_assoc] at h
      obtain ⟨rfl, htail⟩ := outlineAt_append_cancel hshape.1 h
      obtain ⟨rfl, hrest⟩ := outlineOfAll_append_cancel hshape.2 htail
      exact ⟨rfl, hrest⟩

end

end ParseTree

/-- Quoting loses nothing. An escaped text is decoded to the text, a quoted text is read as a
literal of the text, and elements and trees that are alike but for their texts are printed alike
only if they have the same texts. -/
theorem quotation_faithful :
    (∀ text, unescape (escape text) = text) ∧
      (∀ text span s, Reduction.shift .string (quote text) span s =
        .ok (s.push (.element (.text span text)))) ∧
      (∀ e e' : Element, e.withoutTexts = e'.withoutTexts → e.render = e'.render → e = e') ∧
      ∀ t t' : ParseTree, t.withoutTexts = t'.withoutTexts → t.outline = t'.outline → t = t' := by
  refine ⟨unescape_escape, fun text span s => ?_, fun e e' hshape h => ?_,
    fun t t' hshape h => ?_⟩
  · simp only [Reduction.shift, Reduction.tokenValue?, Reduction.literalValue_quote]
  · exact (Element.render_append_cancel hshape (congrArg (·.toList ++ []) h)).1
  · exact (ParseTree.outlineAt_append_cancel hshape (congrArg (·.toList ++ []) h)).1

end Peg
