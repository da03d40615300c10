import Mathlib.Logic.Relation
import Peg.Proofs.Text.Hex
import Peg.Text.Escape

/-!
# The grammar of escapes

Decoding a text goes through it from left to right. Where a sequence starts that stands for a
character, the character takes its place; every other character is copied.
-/

namespace Peg.Text.Escape

/-- The letters that stand for a character behind a backslash. -/
def letters : List (Char × Char) :=
  [('n', '\n'), ('r', '\r'), ('t', '\t'), ('0', '\x00'), ('\\', '\\'), ('"', '"'), ('\'', '\''),
    ('/', '/')]

/-- The sequences that stand for a character. -/
inductive Denotes : List Char → Char → Prop
  | letter {letter c : Char} (h : (letter, c) ∈ letters) : Denotes ['\\', letter] c
  | digits {digits : List Char} {c : Char} (hlength : digits.length = 4)
      (h : Hex.Writes digits c.toNat) : Denotes ('\\' :: 'u' :: digits) c
  | braces {digits : List Char} {c : Char} (hpos : 0 < digits.length) (hle : digits.length ≤ 6)
      (h : Hex.Writes digits c.toNat) : Denotes ('\\' :: 'u' :: '{' :: (digits ++ ['}'])) c

/-- The sequences in which a plus sign stands in front of the digits in braces. -/
inductive Signed : List Char → Char → Prop
  | mk {digits : List Char} {c : Char} (hpos : 0 < digits.length) (hle : digits.length ≤ 5)
      (h : Hex.Writes digits c.toNat) : Signed ('\\' :: 'u' :: '{' :: '+' :: (digits ++ ['}'])) c

/-- The sequences that decoding knows. -/
def Known (s : List Char) (c : Char) : Prop :=
  Denotes s c ∨ Signed s c

/-- One step through a text in which some sequences stand for a character: the character that is
written, and the rest of the text. -/
inductive Step (Stands : List Char → Char → Prop) : List Char → Char → List Char → Prop
  | decode {s rest : List Char} {c : Char} (h : Stands s c) : Step Stands (s ++ rest) c rest
  | copy {c : Char} {rest : List Char} (h : ∀ s d, Stands s d → ¬ s <+: c :: rest) :
      Step Stands (c :: rest) c rest

/-- What is written on the way through a whole text. -/
inductive Decodes (Stands : List Char → Char → Prop) : List Char → List Char → Prop
  | nil : Decodes Stands [] []
  | cons {text rest written : List Char} {c : Char} (h : Step Stands text c rest)
      (hrest : Decodes Stands rest written) : Decodes Stands text (c :: written)

/-- Some steps through the text lead to the rest. -/
def Reaches (Stands : List Char → Char → Prop) : List Char → List Char → Prop :=
  Relation.ReflTransGen fun text rest => ∃ c, Step Stands text c rest

/-- The text starts with a sequence that has a plus sign. -/
def StartsSigned (text : List Char) : Prop :=
  ∃ s c, Signed s c ∧ s <+: text

/-- The single letters that stand for a character are those of the table. -/
theorem simple?_eq_some_iff {letter c : Char} :
    simple? letter = some c ↔ (letter, c) ∈ letters := by
  constructor
  · intro h
    unfold simple? at h
    split at h <;> cases h <;> decide
  · have hall : ∀ pair ∈ letters, simple? pair.1 = some pair.2 := by decide
    exact hall (letter, c)

/-- A hexadecimal digit is neither a brace nor a plus sign. -/
theorem ne_of_isDigit {c : Char} (h : c.toLower ∈ Hex.alphabet) : c ≠ '{' ∧ c ≠ '}' ∧ c ≠ '+' := by
  refine ⟨?_, ?_, ?_⟩ <;> rintro rfl <;> revert h <;> decide

section Sequences

variable {hex rest : List Char} {c : Char} {n : Nat}

/-- Digits in braces stand for a character if their value is that of one. -/
theorem braced?_of_signedValue? (hbrace : '}' ∉ hex) (hle : hex.length ≤ 6)
    (hvalue : Hex.signedValue? hex = some c.toNat) :
    braced? (hex ++ '}' :: rest) = some (c, hex.length + 2) := by
  have hne : ∀ d ∈ hex, (d != '}') = true := fun d hd => by
    simpa using fun heq : d = '}' => hbrace (heq ▸ hd)
  have htake : (hex ++ '}' :: rest).takeWhile (· != '}') = hex := by
    rw [List.takeWhile_append_of_pos hne, List.takeWhile_cons_of_neg (by simp), List.append_nil]
  simp [braced?, htake, hle, hvalue, Hex.scalar?_eq_some_iff.mpr rfl]

/-- What is read in braces are at most six characters with the value of the character, up to the
closing brace. -/
theorem exists_of_braced? {text : List Char} (h : braced? text = some (c, n)) :
    ∃ hex rest, text = hex ++ '}' :: rest ∧ hex.length ≤ 6 ∧
      Hex.signedValue? hex = some c.toNat ∧ n = hex.length + 2 := by
  unfold braced? at h
  dsimp only at h
  split at h
  next hcond =>
    obtain ⟨hlt, hle⟩ : (text.takeWhile (· != '}')).length < text.length ∧
        (text.takeWhile (· != '}')).length ≤ 6 := by simpa using hcond
    obtain ⟨d, hvalue, hd⟩ := Option.map_eq_some_iff.mp h
    cases hd
    obtain ⟨code, hcode, hscalar⟩ := Option.bind_eq_some_iff.mp hvalue
    have hsplit := List.takeWhile_append_dropWhile (p := (· != '}')) (l := text)
    cases hdrop : text.dropWhile (· != '}') with
    | nil =>
      rw [hdrop, List.append_nil] at hsplit
      rw [hsplit] at hlt
      exact absurd hlt (Nat.lt_irrefl _)
    | cons e rest =>
      have hnot := List.head_dropWhile_not (· != '}') (by rw [hdrop]; exact List.cons_ne_nil e rest)
      simp only [hdrop, List.head_cons] at hnot
      obtain rfl : e = '}' := by simpa using hnot
      rw [hdrop] at hsplit
      rw [Hex.scalar?_eq_some_iff.mp hscalar] at hcode
      exact ⟨_, rest, hsplit.symm, hle, hcode, rfl⟩
  · cases h

/-- Four digits stand for the character that they write, whatever follows. -/
theorem fourDigits?_append {digits : List Char} (hlength : digits.length = 4)
    (h : Hex.Writes digits c.toNat) (rest : List Char) :
    fourDigits? (digits ++ rest) = some (c, 4) := by
  have hne : digits ≠ [] := List.ne_nil_of_length_eq_add_one hlength
  have hvalue := Hex.value?_eq_some_iff.mpr ⟨hne, h⟩
  have htake : (digits ++ rest).take 4 = digits := by rw [← hlength, List.take_left]
  simp [fourDigits?, htake, hlength, hvalue, Hex.scalar?_eq_some_iff.mpr rfl]

/-- What is read without braces are four digits that write the character. -/
theorem exists_of_fourDigits? {text : List Char} (h : fourDigits? text = some (c, n)) :
    ∃ digits rest, text = digits ++ rest ∧ digits.length = 4 ∧ Hex.Writes digits c.toNat ∧
      n = 4 := by
  unfold fourDigits? at h
  dsimp only at h
  split at h
  next hlength =>
    obtain ⟨d, hvalue, hd⟩ := Option.map_eq_some_iff.mp h
    cases hd
    obtain ⟨code, hcode, hscalar⟩ := Option.bind_eq_some_iff.mp hvalue
    rw [Hex.scalar?_eq_some_iff.mp hscalar] at hcode
    exact ⟨text.take 4, text.drop 4, (List.take_append_drop 4 text).symm, hlength,
      (Hex.value?_eq_some_iff.mp hcode).2, rfl⟩
  · cases h

/-- A sequence with braces is read as a whole. -/
theorem unicode?_braces (hbrace : '}' ∉ hex) (hle : hex.length ≤ 6)
    (hvalue : Hex.signedValue? hex = some c.toNat) :
    unicode? ('{' :: (hex ++ ['}']) ++ rest) = some (c, ('{' :: (hex ++ ['}'])).length) := by
  rw [List.cons_append, List.append_assoc, List.singleton_append, unicode?,
    braced?_of_signedValue? hbrace hle hvalue]
  simp

/-- A sequence with four digits is read as a whole. -/
theorem unicode?_digits {digits : List Char} (hlength : digits.length = 4)
    (h : Hex.Writes digits c.toNat) : unicode? (digits ++ rest) = some (c, digits.length) := by
  have hfour := fourDigits?_append hlength h rest
  obtain ⟨d, ds, rfl⟩ := List.exists_cons_of_length_eq_add_one hlength
  have hd : d ≠ '{' := (ne_of_isDigit (h.digit d List.mem_cons_self)).1
  rw [hlength]
  unfold unicode?
  split
  next heq =>
    cases heq
    exact absurd rfl hd
  · exact hfour

/-- What is read behind the letter of a Unicode sequence makes a known sequence. -/
theorem exists_of_unicode? {text : List Char} (h : unicode? text = some (c, n)) :
    ∃ t rest, text = t ++ rest ∧ t.length = n ∧ Known ('\\' :: 'u' :: t) c := by
  unfold unicode? at h
  split at h
  · obtain ⟨hex, rest, rfl, hle, hvalue, rfl⟩ := exists_of_braced? h
    refine ⟨'{' :: (hex ++ ['}']), rest, by simp, by simp, ?_⟩
    obtain ⟨digits, rfl | rfl, hne, hdigits⟩ := Hex.signedValue?_eq_some_iff.mp hvalue
    · exact .inl (.braces (List.length_pos_of_ne_nil hne) hle hdigits)
    · exact .inr (.mk (List.length_pos_of_ne_nil hne) (Nat.le_of_succ_le_succ hle) hdigits)
  · obtain ⟨digits, rest, rfl, hlength, hdigits, rfl⟩ := exists_of_fourDigits? h
    exact ⟨digits, rest, rfl, hlength, .inl (.digits hlength hdigits)⟩

/-- The letter of the longer sequences stands for nothing by itself. -/
theorem escape?_unicode {t : List Char} (h : unicode? (t ++ rest) = some (c, t.length)) :
    escape? ('u' :: t ++ rest) = some (c, ('u' :: t).length) := by
  rw [List.cons_append, escape?, show simple? 'u' = none from rfl]
  simp [h]

/-- Behind the backslash, everything that belongs to a sequence is taken and nothing else. -/
theorem escape?_append {s : List Char} (h : Known s c) (rest : List Char) :
    ∃ t, s = '\\' :: t ∧ escape? (t ++ rest) = some (c, t.length) := by
  have hplain {digits : List Char} (h : Hex.Writes digits c.toNat) : '}' ∉ digits :=
    fun hmem => (ne_of_isDigit (h.digit _ hmem)).2.1 rfl
  rcases h with h | h
  · cases h with
    | letter h =>
      refine ⟨_, rfl, ?_⟩
      rw [List.singleton_append, escape?, simple?_eq_some_iff.mpr h]
      rfl
    | digits hlength h => exact ⟨_, rfl, escape?_unicode (unicode?_digits hlength h)⟩
    | @braces digits _ hpos hle h =>
      refine ⟨_, rfl, escape?_unicode (unicode?_braces (hplain h) hle ?_)⟩
      exact Hex.signedValue?_eq_some_iff.mpr
        ⟨digits, .inl rfl, List.ne_nil_of_length_pos hpos, h⟩
  · cases h with
    | @mk digits _ hpos hle h =>
      have hbrace : '}' ∉ '+' :: digits := by simpa using hplain h
      refine ⟨_, rfl, escape?_unicode (unicode?_braces hbrace (Nat.succ_le_succ hle) ?_)⟩
      exact Hex.signedValue?_eq_some_iff.mpr
        ⟨digits, .inr rfl, List.ne_nil_of_length_pos hpos, h⟩

/-- What is decoded behind a backslash is a sequence with the backslash. -/
theorem exists_of_escape? {text : List Char} (h : escape? text = some (c, n)) :
    ∃ t rest, text = t ++ rest ∧ t.length = n ∧ Known ('\\' :: t) c := by
  cases text with
  | nil => cases h
  | cons letter text =>
    rw [escape?] at h
    split at h
    next hletter =>
      cases h
      exact ⟨[letter], text, rfl, rfl, .inl (.letter (simple?_eq_some_iff.mp hletter))⟩
    · split at h
      next hu =>
        subst hu
        obtain ⟨⟨d, consumed⟩, hunicode, hd⟩ := Option.map_eq_some_iff.mp h
        cases hd
        obtain ⟨t, rest, rfl, hlength, hknown⟩ := exists_of_unicode? hunicode
        exact ⟨'u' :: t, rest, rfl, congrArg (· + 1) hlength, hknown⟩
      · cases h

end Sequences

/-- The character that decoding writes first, with the rest of the text. -/
def decodeFirst? : List Char → Option (Char × List Char)
  | [] => none
  | c :: rest =>
    some <| match escapeAt? c rest with
      | some (decoded, consumed) => (decoded, rest.drop consumed)
      | none => (c, rest)

/-- Characters that are to be skipped may be dropped beforehand. -/
theorem decodeFrom_eq_drop (skip : Nat) (text : List Char) :
    decodeFrom skip text = decodeFrom 0 (text.drop skip) := by
  induction text generalizing skip with
  | nil => simp [decodeFrom]
  | cons c rest ih =>
    cases skip with
    | zero => rfl
    | succ skip => exact ih skip

section Walk

variable {Stands : List Char → Char → Prop} {text rest rest' s out : List Char} {c c' : Char}

/-- Decoding writes the first character and goes on behind it. -/
theorem decodeFrom_of_decodeFirst? (h : decodeFirst? text = some (c, rest)) :
    decodeFrom 0 text = c :: decodeFrom 0 rest := by
  cases text with
  | nil => cases h
  | cons d tail =>
    cases hescape : escapeAt? d tail with
    | none =>
      rw [decodeFirst?, hescape] at h
      cases h
      simp only [decodeFrom, hescape]
    | some found =>
      rw [decodeFirst?, hescape] at h
      cases h
      simp only [decodeFrom, hescape, decodeFrom_eq_drop found.2 tail]

/-- A known sequence at the front is decoded as a whole, whatever follows. -/
theorem decodeFirst?_append (h : Known s c) (rest : List Char) :
    decodeFirst? (s ++ rest) = some (c, rest) := by
  obtain ⟨t, rfl, hescape⟩ := escape?_append h rest
  rw [List.cons_append, decodeFirst?, escapeAt?, if_pos rfl, hescape]
  simp

/-- Where no sequence starts, the character is copied. -/
theorem decodeFirst?_cons (h : ∀ s d, Known s d → ¬ s <+: c :: rest) :
    decodeFirst? (c :: rest) = some (c, rest) := by
  have hnone : escapeAt? c rest = none := by
    rw [Option.eq_none_iff_forall_ne_some]
    rintro ⟨d, n⟩ hsome
    rw [escapeAt?] at hsome
    split at hsome
    next hc =>
      subst hc
      obtain ⟨t, rest', rfl, -, hknown⟩ := exists_of_escape? hsome
      exact h _ d hknown (List.prefix_append _ rest')
    · cases hsome
  rw [decodeFirst?, hnone]

/-- Decoding goes through the text by steps that know all the sequences. -/
theorem Step.decodeFirst?_eq (h : Step Known text c rest) :
    decodeFirst? text = some (c, rest) := by
  cases h with
  | decode h => exact decodeFirst?_append h rest
  | copy h => exact decodeFirst?_cons h

/-- Known sequences start with a backslash. -/
theorem Known.eq_cons (h : Known s c) : ∃ t, s = '\\' :: t := by
  obtain ⟨t, ht, -⟩ := escape?_append h []
  exact ⟨t, ht⟩

/-- A sequence starts with a backslash. -/
theorem Known.not_prefix_cons (h : Known s c') (hc : c ≠ '\\') : ¬ s <+: c :: rest := by
  obtain ⟨t, rfl⟩ := h.eq_cons
  exact fun hprefix => hc (List.cons_prefix_cons.mp hprefix).1.symm

/-- A text starts with at most one sequence. -/
theorem Known.unique {s' : List Char} (h : Known s c) (h' : Known s' c')
    (heq : s ++ rest = s' ++ rest') : c = c' ∧ rest = rest' := by
  have hfirst := decodeFirst?_append h rest
  rw [heq, decodeFirst?_append h' rest'] at hfirst
  cases hfirst
  exact ⟨rfl, rfl⟩

/-- There is only one step that can be taken from a text. -/
theorem Step.unique (hle : Stands ≤ Known) (h : Step Stands text c rest)
    (h' : Step Stands text c' rest') : c = c' ∧ rest = rest' := by
  generalize htext : text = text' at h'
  cases h with
  | decode h =>
    cases h' with
    | decode h' => exact (hle _ _ h).unique (hle _ _ h') htext
    | copy h' => exact (h' _ _ h (htext ▸ List.prefix_append _ rest)).elim
  | copy h =>
    cases h' with
    | decode h' => exact (h _ _ h' (htext ▸ List.prefix_append _ rest')).elim
    | copy h' =>
      cases htext
      exact ⟨rfl, rfl⟩

/-- A step can be taken from every text that is not empty. -/
theorem exists_step (Stands : List Char → Char → Prop) (c : Char) (rest : List Char) :
    ∃ d rest', Step Stands (c :: rest) d rest' := by
  by_cases h : ∃ s d, Stands s d ∧ s <+: c :: rest
  · obtain ⟨s, d, hs, rest', heq⟩ := h
    exact ⟨d, rest', heq ▸ .decode hs⟩
  · exact ⟨c, rest, .copy fun s d hs hprefix => h ⟨s, d, hs, hprefix⟩⟩

/-- A step leaves less of the text. -/
theorem Step.length_lt (hle : Stands ≤ Known) (h : Step Stands text c rest) :
    rest.length < text.length := by
  cases h with
  | decode h =>
    obtain ⟨t, rfl⟩ := (hle _ _ h).eq_cons
    simp
  | copy h => simp

/-- Every text decodes to exactly one text. -/
theorem existsUnique_decodes (hle : Stands ≤ Known) (text : List Char) :
    ∃! out, Decodes Stands text out := by
  induction hlength : text.length using Nat.strongRecOn generalizing text with
  | ind n ih =>
    subst hlength
    cases text with
    | nil =>
      refine ⟨[], .nil, fun out h => ?_⟩
      cases h with
      | nil => rfl
      | cons h _ => exact absurd (h.length_lt hle) (Nat.not_lt_zero _)
    | cons c tail =>
      obtain ⟨d, rest, hstep⟩ := exists_step Stands c tail
      obtain ⟨out, hout, hunique⟩ := ih rest.length (hstep.length_lt hle) rest rfl
      refine ⟨d :: out, .cons hstep hout, fun out' h => ?_⟩
      cases h with
      | cons h' hrest =>
        obtain ⟨rfl, rfl⟩ := h'.unique hle hstep
        rw [hunique _ hrest]

/-- Decoding writes what is reached by steps through known sequences. -/
theorem decodes_known (text : List Char) : Decodes Known text (decodeFrom 0 text) := by
  obtain ⟨out, hout, -⟩ := existsUnique_decodes (le_refl Known) text
  suffices decodeFrom 0 text = out from this ▸ hout
  induction hout with
  | nil => rfl
  | cons h _ ih => rw [decodeFrom_of_decodeFirst? h.decodeFirst?_eq, ih]

end Walk

section Signs

variable {s text rest out : List Char} {c : Char}

/-- The documented sequences are known. -/
theorem denotes_le_known : Denotes ≤ Known :=
  fun _ _ => .inl

/-- A sequence with a plus sign is not a documented one. -/
theorem Signed.not_denotes (h : Signed s c) (d : Char) : ¬ Denotes s d := by
  intro hd
  cases h with
  | mk hpos hle h =>
    have hbrace {tail : List Char} {n : Nat} (h : Hex.Writes ('{' :: tail) n) : False :=
      absurd (h.digit '{' List.mem_cons_self) (by decide)
    have hplus {tail : List Char} {n : Nat} (h : Hex.Writes ('+' :: tail) n) : False :=
      absurd (h.digit '+' List.mem_cons_self) (by decide)
    generalize htext : '\\' :: 'u' :: '{' :: '+' :: _ = text at hd
    cases hd with
    | letter => simp at htext
    | digits _ h =>
      simp only [List.cons.injEq, true_and] at htext
      exact hbrace (htext ▸ h)
    | @braces digits _ hpos _ h =>
      obtain ⟨e, digits, rfl⟩ := List.exists_cons_of_length_pos hpos
      simp only [List.cons.injEq, List.cons_append, true_and] at htext
      exact hplus (htext.1 ▸ h)

/-- Text without a backslash is copied. -/
theorem exists_of_decodes_append {plain : List Char} (hplain : '\\' ∉ plain)
    (h : Decodes Denotes (plain ++ rest) out) :
    ∃ out', out = plain ++ out' ∧ Decodes Denotes rest out' := by
  induction plain generalizing out with
  | nil => exact ⟨out, rfl, h⟩
  | cons c plain ih =>
    rw [List.mem_cons, not_or] at hplain
    have hcopy : Step Denotes (c :: (plain ++ rest)) c (plain ++ rest) :=
      .copy fun s d hs => (denotes_le_known s d hs).not_prefix_cons (Ne.symm hplain.1)
    cases h with
    | cons h hrest =>
      obtain ⟨rfl, rfl⟩ := h.unique denotes_le_known hcopy
      obtain ⟨out', rfl, hout⟩ := ih hplain.2 hrest
      exact ⟨out', rfl, hout⟩

/-- A sequence with a plus sign stands for nothing: it is copied. -/
theorem Signed.exists_of_decodes (hs : Signed s c) (h : Decodes Denotes (s ++ rest) out) :
    ∃ out', out = s ++ out' ∧ Decodes Denotes rest out' := by
  have hcopy : ∀ s' d, Denotes s' d → ¬ s' <+: s ++ rest := by
    rintro s' d hd ⟨rest', heq⟩
    obtain ⟨-, rfl⟩ := Known.unique (.inl hd) (.inr hs) heq
    exact hs.not_denotes d (List.append_cancel_right heq ▸ hd)
  obtain ⟨t, rfl⟩ := Known.eq_cons (.inr hs)
  have hplain : '\\' ∉ t := by
    cases hs with
    | mk hpos hle h =>
      have hdigits := h.digit '\\'
      simpa using fun hmem => absurd (hdigits hmem) (by decide)
  cases h with
  | cons h hrest =>
    obtain ⟨rfl, rfl⟩ := h.unique denotes_le_known (.copy hcopy)
    obtain ⟨out', rfl, hout⟩ := exists_of_decodes_append hplain hrest
    exact ⟨out', rfl, hout⟩

/-- Where no sequence with a plus sign starts, the documented step is the one that decoding
takes. -/
theorem Step.known (h : Step Denotes text c rest) (hsigned : ¬ StartsSigned text) :
    Step Known text c rest := by
  cases h with
  | decode h => exact .decode (.inl h)
  | copy h =>
    refine .copy fun s d hs hprefix => ?_
    exact hs.elim (fun hs => h s d hs hprefix) fun hs => hsigned ⟨s, d, hs, hprefix⟩

/-- What decoding writes is never longer than the text without the sequences that have a plus sign,
and shorter if there is such a sequence on the way. -/
theorem length_decodeFrom_le (h : Decodes Denotes text out) :
    (decodeFrom 0 text).length ≤ out.length ∧
      ((∃ rest, Reaches Denotes text rest ∧ StartsSigned rest) →
        (decodeFrom 0 text).length < out.length) := by
  induction hlength : text.length using Nat.strongRecOn generalizing text out with
  | ind n ih =>
    subst hlength
    by_cases hsigned : StartsSigned text
    · -- The sequence is copied in full, and decoding writes a single character for it.
      obtain ⟨s, c, hs, rest, rfl⟩ := hsigned
      obtain ⟨out', rfl, hout⟩ := hs.exists_of_decodes h
      have hlong : 1 < s.length := by cases hs; simp
      have hle := (ih rest.length (by simp; omega) hout rfl).1
      rw [decodeFrom_of_decodeFirst? (decodeFirst?_append (.inr hs) rest)]
      simp only [List.length_cons, List.length_append]
      omega
    · cases h with
      | nil =>
        refine ⟨Nat.le_refl 0, ?_⟩
        rintro ⟨rest, hreaches, hrest⟩
        rcases hreaches.cases_head with rfl | ⟨_, ⟨c, h⟩, _⟩
        · exact absurd hrest hsigned
        · exact absurd (h.length_lt denotes_le_known) (Nat.not_lt_zero _)
      | @cons _ rest written c h hrest =>
        obtain ⟨hle, hlt⟩ := ih rest.length (h.length_lt denotes_le_known) hrest rfl
        rw [decodeFrom_of_decodeFirst? (h.known hsigned).decodeFirst?_eq, List.length_cons,
          List.length_cons]
        refine ⟨Nat.succ_le_succ hle, ?_⟩
        rintro ⟨rest', hreaches, hrest'⟩
        rcases hreaches.cases_head with rfl | ⟨_, ⟨c', h'⟩, hreaches⟩
        · exact absurd hrest' hsigned
        · obtain ⟨-, rfl⟩ := h'.unique denotes_le_known h
          exact Nat.succ_lt_succ (hlt ⟨rest', hreaches, hrest'⟩)

/-- Where no sequence has a plus sign, only those that stand for a character are known. -/
theorem decodeFrom_eq_of_decodes (h : Decodes Denotes text out)
    (hsigned : ∀ rest, Reaches Denotes text rest → ¬ StartsSigned rest) :
    decodeFrom 0 text = out := by
  induction h with
  | nil => rfl
  | @cons text rest written c h _ ih =>
    have hfirst := (h.known (hsigned text .refl)).decodeFirst?_eq
    rw [decodeFrom_of_decodeFirst? hfirst, ih fun rest' hreaches =>
      hsigned rest' (.head ⟨c, h⟩ hreaches)]

end Signs

/-- Decoding goes through the text from left to right. It copies every character but those of the
sequences that stand for a character, and of those that only add a plus sign to one of these. So it
writes what is denoted just if it comes across no plus sign. -/
theorem unescape_exact (text : String) :
    (∀ out, Decodes Known text.toList out ↔ out = (unescape text).toList) ∧
      (∃! out, Decodes Denotes text.toList out) ∧
      (Decodes Denotes text.toList (unescape text).toList ↔
        ∀ rest, Reaches Denotes text.toList rest → ¬ StartsSigned rest) := by
  have hknown := decodes_known text.toList
  rw [unescape, String.toList_ofList]
  refine ⟨fun out => ?_, existsUnique_decodes denotes_le_known _, ?_⟩
  · constructor
    · exact fun h => (existsUnique_decodes (le_refl Known) _).unique h hknown
    · rintro rfl
      exact hknown
  · constructor
    · intro h rest hreaches hsigned
      exact absurd ((length_decodeFrom_le h).2 ⟨rest, hreaches, hsigned⟩) (Nat.lt_irrefl _)
    · intro hsigned
      obtain ⟨out, hout, -⟩ := existsUnique_decodes denotes_le_known text.toList
      exact decodeFrom_eq_of_decodes hout hsigned ▸ hout

/-- A sequence with a plus sign is malformed, and it is decoded all the same. -/
theorem plusSign_decoded :
    unescape "\\u\x7b+41\x7d" = "A" ∧
      Decodes Denotes "\\u\x7b+41\x7d".toList "\\u\x7b+41\x7d".toList ∧
      ¬ Decodes Denotes "\\u\x7b+41\x7d".toList "A".toList := by
  have hsigned : Signed "\\u\x7b+41\x7d".toList 'A' :=
    @Signed.mk ['4', '1'] 'A' (by decide) (by decide) ⟨by simp [Hex.alphabet], by decide⟩
  have hcopied (out : List Char) (h : Decodes Denotes "\\u\x7b+41\x7d".toList out) :
      out = "\\u\x7b+41\x7d".toList := by
    rw [← List.append_nil "\\u\x7b+41\x7d".toList] at h
    obtain ⟨out', rfl, hrest⟩ := hsigned.exists_of_decodes h
    cases hrest with
    | nil => exact List.append_nil _
    | cons hstep _ => exact absurd (hstep.length_lt denotes_le_known) (Nat.not_lt_zero _)
  obtain ⟨out, hout, -⟩ := existsUnique_decodes denotes_le_known "\\u\x7b+41\x7d".toList
  refine ⟨by decide +kernel, hcopied out hout ▸ hout, fun h => ?_⟩
  exact absurd (hcopied _ h) (by decide)

end Peg.Text.Escape
