import Peg.Highlight.Writing
import Peg.Proofs.Highlight.GroupNumbers

/-!
# Patterns are composed of the patterns of their parts

What is written for an element does not depend on what was written before it, except that its scopes
are numbered from where the numbers had got to. So a pattern is the text of a tree that is made of
the trees of its parts, and a reference always contributes the same to a pattern.
-/

namespace Peg

/-- A capture behind a number of others. -/
def Capture.shift (n : Nat) (c : Capture) : Capture :=
  { c with index := c.index + n }

namespace HighlightPattern

/-- One pattern behind another. The captures of the second one are numbered behind those of the
first. -/
def append (out p : HighlightPattern) : HighlightPattern where
  pattern := out.pattern ++ p.pattern
  captures := out.captures ++ p.captures.map (Capture.shift out.captures.length)

/-- The captures have the numbers from one on, without gaps. -/
def Consecutive (p : HighlightPattern) : Prop :=
  p.captures.map Capture.index = List.range' 1 p.captures.length

variable {out p q : HighlightPattern}

/-- Behind nothing a pattern stays as it is. -/
@[simp] theorem empty_append (p : HighlightPattern) : empty.append p = p := by
  have hshift : Capture.shift 0 = id := rfl
  simp [append, empty, hshift]

/-- Patterns can be put together in any grouping. -/
theorem append_assoc (out p q : HighlightPattern) :
    (out.append p).append q = out.append (p.append q) := by
  have hshift (m n : Nat) : Capture.shift n ∘ Capture.shift m = Capture.shift (n + m) := by
    funext c
    simp only [Function.comp_apply, Capture.shift, Nat.add_assoc, Nat.add_comm n m]
  simp [append, String.append_assoc, hshift]

/-- A part between two texts. -/
theorem append_between (out p : HighlightPattern) (before after : String) :
    ((out.write before).append p).write after =
      out.append ⟨before ++ p.pattern ++ after, p.captures⟩ := by
  simp [append, write, String.append_assoc]

/-- A part that has a scope as a whole. -/
theorem append_capture (out p : HighlightPattern) (scope : String) :
    ((out.openScope scope).append p).write ")" =
      out.append ⟨"(" ++ p.pattern ++ ")", ⟨1, scope⟩ :: p.captures.map (Capture.shift 1)⟩ := by
  have hshift (n : Nat) : Capture.shift n ∘ Capture.shift 1 = Capture.shift (n + 1) := by
    funext c
    simp only [Function.comp_apply, Capture.shift, Nat.add_assoc, Nat.add_comm n 1]
  have hfirst (n : Nat) : Capture.shift n ⟨1, scope⟩ = ⟨n + 1, scope⟩ := by
    simp [Capture.shift, Nat.add_comm]
  simp [append, write, openScope, String.append_assoc, hshift, hfirst]

/-- Without gaps in the numbers of two patterns there are none in those of both. -/
theorem Consecutive.append (hout : out.Consecutive) (hp : p.Consecutive) :
    (out.append p).Consecutive := by
  have hshift (n : Nat) : Capture.index ∘ Capture.shift n = (n + ·) ∘ Capture.index := by
    funext c
    exact Nat.add_comm c.index n
  simp only [Consecutive, HighlightPattern.append, List.map_append, List.map_map, hshift,
    List.length_append, List.length_map] at hout hp ⊢
  rw [hout, ← List.map_map, hp, List.map_add_range', Nat.add_comm out.captures.length 1,
    List.range'_append_1]

end HighlightPattern

namespace ScopedPattern

/-- A pattern with scopes as text. -/
def toHighlight (p : ScopedPattern) : HighlightPattern :=
  ⟨p.render, p.captures⟩

/-- The captures of a pattern are numbered without gaps. -/
theorem consecutive_toHighlight (p : ScopedPattern) : p.toHighlight.Consecutive := by
  refine List.ext_getElem (by simp [toHighlight]) fun k _ _ => ?_
  simp [toHighlight, captures, Nat.add_comm]

/-- Behind other captures, those of a pattern go on with the numbers. -/
theorem map_shift_captures (p : ScopedPattern) (n : Nat) :
    p.captures.map (Capture.shift n) = p.scopes.mapIdx fun i scope => ⟨i + 1 + n, scope⟩ := by
  refine List.ext_getElem (by simp [captures]) fun k _ _ => ?_
  simp [captures, Capture.shift]

/-- A sequence is written as one pattern behind the other. -/
theorem toHighlight_sequence (left right : ScopedPattern) :
    (sequence left right).toHighlight = left.toHighlight.append right.toHighlight := by
  have hlength : left.captures.length = left.scopes.length := List.length_mapIdx
  have hcaptures : (sequence left right).captures =
      left.captures ++ right.captures.map (Capture.shift left.captures.length) := by
    rw [map_shift_captures, hlength, captures, scopes, List.mapIdx_append, captures]
    simp only [Nat.add_right_comm]
  rw [toHighlight, hcaptures]
  rfl

/-- A repetition is written as a group with the operator behind it. -/
theorem toHighlight_repeated (operator : SuffixOperator) (body : ScopedPattern) :
    (repeated operator body).toHighlight =
      ⟨"(?:" ++ body.render ++ (")" ++ operator.symbol), body.captures⟩ := by
  have hrender : (repeated operator body).render =
      "(?:" ++ body.render ++ ")" ++ operator.symbol := rfl
  rw [toHighlight, hrender, String.append_assoc]
  rfl

/-- A capture is written as a group with a number, and the captures in it come next. -/
theorem toHighlight_capture (scope : String) (body : ScopedPattern) :
    (capture scope body).toHighlight = ⟨"(" ++ body.render ++ ")",
      ⟨1, scope⟩ :: body.captures.map (Capture.shift 1)⟩ := by
  have hcaptures : (capture scope body).captures =
      ⟨1, scope⟩ :: body.captures.map (Capture.shift 1) := by
    rw [map_shift_captures, captures, scopes, List.mapIdx_cons]
  rw [toHighlight, hcaptures]
  rfl

end ScopedPattern

namespace Writer

/-- The pattern that a derivation yields is written behind what is there, or its error is
reported. -/
def Writes (w : Writer) (derived : Except DerivationError ScopedPattern) : Prop :=
  ∀ out, w out = derived.map fun p => out.append p.toHighlight

variable {w left right body : Writer}
  {derived first second inner : Except DerivationError ScopedPattern}

/-- What is written behind something is what is written on its own. -/
theorem Writes.eq_append (h : w.Writes derived) (out : HighlightPattern) :
    w out = (w .empty).map out.append := by
  rw [h out, h .empty]
  cases derived with
  | error e => rfl
  | ok p =>
    have hempty : out.append p.toHighlight =
        out.append (HighlightPattern.empty.append p.toHighlight) := by
      rw [HighlightPattern.empty_append]
    exact congrArg Except.ok hempty

/-- A text without captures is written for the pattern with this text. -/
theorem Writes.text {content : String} {p : ScopedPattern}
    (h : p.toHighlight = ⟨content, []⟩) : (text content).Writes (.ok p) := by
  intro out
  simp [Writer.text, HighlightPattern.write, Except.map, HighlightPattern.append, h]

/-- Two patterns in a row are written one behind the other. -/
theorem Writes.sequence (hleft : left.Writes first) (hright : right.Writes second) :
    (sequence left right).Writes (do return .sequence (← first) (← second)) := by
  intro out
  rw [Writer.sequence, hleft out]
  cases first with
  | error e => rfl
  | ok l =>
    have hsecond := hright (out.append l.toHighlight)
    cases second with
    | error e => exact hsecond
    | ok r =>
      have happend : (out.append l.toHighlight).append r.toHighlight =
          out.append (ScopedPattern.sequence l r).toHighlight := by
        rw [HighlightPattern.append_assoc, ScopedPattern.toHighlight_sequence]
      exact hsecond.trans (congrArg Except.ok happend)

/-- Text around a pattern is written around what is written for the pattern. -/
theorem Writes.between {before after : String} {make : ScopedPattern → ScopedPattern}
    (hbody : body.Writes inner) (hmake : ∀ p, (make p).toHighlight =
      ⟨before ++ p.render ++ after, p.captures⟩) :
    (between before after body).Writes (do return make (← inner)) := by
  intro out
  rw [Writer.between, hbody]
  cases inner with
  | error e => rfl
  | ok p =>
    have happend := out.append_between p.toHighlight before after
    exact congrArg Except.ok (happend.trans (congrArg out.append (hmake p).symm))

/-- A capture gets its number before those inside of it. -/
theorem Writes.capture {scope : String} (hbody : body.Writes inner) :
    (capture scope body).Writes (do return .capture scope (← inner)) := by
  intro out
  rw [Writer.capture, hbody]
  cases inner with
  | error e => rfl
  | ok p =>
    have happend := out.append_capture p.toHighlight scope
    have hcapture := ScopedPattern.toHighlight_capture scope p
    exact congrArg Except.ok (happend.trans (congrArg out.append hcapture.symm))

end Writer

/-- What is written for an element is the pattern that is derived from it. -/
theorem Element.writes_write {rule : String} {follow : Reference → Writer}
    {follow' : Reference → Except DerivationError ScopedPattern}
    (hfollow : ∀ r, (follow r).Writes (follow' r)) (e : Element) :
    (e.write rule follow).Writes (e.derive rule follow') := by
  induction e with
  | text | number | boolean | regex => exact .text rfl
  | reference span name => exact hfollow ⟨name, span⟩
  | sequence _ left right ihl ihr => exact ihl.sequence ihr
  | choice => exact fun _ => rfl
  | optional _ body ih => exact ih.between (ScopedPattern.toHighlight_repeated .optional)
  | zeroOrMore _ body ih => exact ih.between (ScopedPattern.toHighlight_repeated .zeroOrMore)
  | oneOrMore _ body ih => exact ih.between (ScopedPattern.toHighlight_repeated .oneOrMore)
  | not _ body ih => exact ih.between fun p => rfl
  | marked _ _ body ih => exact ih

/-- What encloses the pattern of a definition is written around it. -/
theorem Definition.writes_writeEnclosed {suffix : Option String} {body : Writer}
    {derived : Except DerivationError ScopedPattern} (d : Definition) (h : body.Writes derived) :
    (d.writeEnclosed suffix body).Writes (do return d.enclose suffix (← derived)) := by
  have hbind (make : ScopedPattern → ScopedPattern) (hmake : ∀ p, make p = p) :
      (do return make (← derived)) = derived := by
    cases derived with
    | error e => rfl
    | ok p => exact congrArg Except.ok (hmake p)
  by_cases hinline : d.isInline = true
  · have hmake (p : ScopedPattern) : d.enclose suffix p = p := if_pos hinline
    rw [hbind _ hmake, writeEnclosed, if_pos hinline]
    exact h
  · rw [writeEnclosed, if_neg hinline]
    cases hscope : d.scope? suffix with
    | none =>
      have hmake (p : ScopedPattern) : d.enclose suffix p = p := by
        rw [enclose, if_neg hinline, hscope]
      rw [hbind _ hmake]
      exact h
    | some scope =>
      have hmake : d.enclose suffix = .capture scope := by
        funext p
        rw [enclose, if_neg hinline, hscope]
      rw [hmake]
      exact h.capture

namespace Grammar

variable {g : Grammar} {suffix : Option String} {expanding : List Definition} {budget : Nat}
  {r : Reference} {d : Definition}

/-- A reference without a definition is reported. -/
theorem writeReference_undefined (hfind : g.find? r.name = none) :
    g.writeReference suffix expanding r = fun _ => .error (.undefinedReference r.name r.span) := by
  funext out
  rw [writeReference]
  split
  · rfl
  next d hsome =>
    rw [hfind] at hsome
    cases hsome

/-- A reference back to a definition that is being expanded is reported. -/
theorem writeReference_recursive (hfind : g.find? r.name = some d)
    (hamong : d.isAmong expanding = true) :
    g.writeReference suffix expanding r = fun _ => .error (.recursiveReference r.name r.span) := by
  funext out
  rw [writeReference]
  split
  next hnone =>
    rw [hfind] at hnone
    cases hnone
  next d' hsome =>
    obtain rfl := Option.some.inj (hfind.symm.trans hsome)
    rw [dif_pos hamong]

/-- Any other reference is written as what encloses the body of its definition. -/
theorem writeReference_expanded (hfind : g.find? r.name = some d)
    (hnew : ¬ d.isAmong expanding = true) :
    g.writeReference suffix expanding r =
      d.writeEnclosed suffix (g.writeElement suffix (d :: expanding) d.body) := by
  funext out
  rw [writeReference]
  split
  next hnone =>
    rw [hfind] at hnone
    cases hnone
  next d' hsome =>
    obtain rfl := Option.some.inj (hfind.symm.trans hsome)
    rw [dif_neg hnew]
    rfl

/-- Whether a definition is being expanded can be told from the numbers. -/
theorem contains_map_id (d : Definition) (expanding : List Definition) :
    (expanding.map Definition.id).contains d.id = d.isAmong expanding := by
  rw [Bool.eq_iff_iff, List.contains_iff_mem, List.mem_map, Definition.isAmong, List.any_eq_true]
  exact exists_congr fun e => and_congr_right fun _ => beq_iff_eq.symm

/-- There is no limit to how deep references are followed: as long as fewer definitions remain than
may be nested, a reference is written as it is derived. -/
theorem writes_writeReference (hbudget : g.remaining expanding < budget) (r : Reference) :
    (g.writeReference suffix expanding r).Writes
      (g.deriveReference suffix budget (expanding.map Definition.id) r) := by
  induction budget generalizing expanding r with
  | zero => exact absurd hbudget (Nat.not_lt_zero _)
  | succ budget ih =>
    rw [deriveReference]
    cases hfind : g.find? r.name with
    | none =>
      rw [writeReference_undefined hfind]
      exact fun _ => rfl
    | some d =>
      simp only [contains_map_id]
      split
      next hamong =>
        rw [writeReference_recursive hfind hamong]
        exact fun _ => rfl
      next hnew =>
        rw [writeReference_expanded hfind hnew]
        have hfewer := remaining_cons_lt hfind hnew
        exact d.writes_writeEnclosed (d.body.writes_write (ih (by omega)))

/-- No more definitions remain than there are. -/
theorem remaining_lt (g : Grammar) (expanding : List Definition) :
    g.remaining expanding < g.size + 1 :=
  Nat.lt_succ_of_le (List.length_filter_le _ _)

/-- What is written for an element, as a tree. -/
theorem exists_writes_writeElement (g : Grammar) (suffix : Option String)
    (expanding : List Definition) (e : Element) :
    ∃ derived, (g.writeElement suffix expanding e).Writes derived :=
  ⟨_, e.writes_write (writes_writeReference (g.remaining_lt expanding))⟩

/-- The body of a definition is written as it is derived. -/
theorem writes_body (g : Grammar) (suffix : Option String) (d : Definition) :
    (g.writeElement suffix [d] d.body).Writes (g.deriveBody suffix d) :=
  d.body.writes_write (writes_writeReference (g.remaining_lt [d]))

/-- What is written for a definition is the text of the pattern that is derived for its body. -/
theorem writeBody_eq (g : Grammar) (suffix : Option String) (d : Definition) :
    g.writeBody suffix d = (g.deriveBody suffix d).map ScopedPattern.toHighlight := by
  rw [writeBody, writes_body g suffix d .empty]
  simp only [HighlightPattern.empty_append]

/-- A definition is written as it is derived. -/
theorem writeScoped_eq (g : Grammar) (suffix : Option String) (d : Definition) :
    g.writeScoped suffix d = (g.deriveScoped suffix d).map ScopedPattern.toHighlight := by
  have hbody := writes_body g suffix d
  rw [writeScoped, deriveScoped]
  cases hscope : d.scope? suffix with
  | none =>
    have hgroup : (Writer.between "(?:" ")" (g.writeElement suffix [d] d.body)).Writes
        (do return .group (← g.deriveBody suffix d)) := hbody.between fun _ => rfl
    refine (hgroup .empty).trans ?_
    simp only [HighlightPattern.empty_append]
  | some scope =>
    have hcapture : (Writer.capture scope (g.writeElement suffix [d] d.body)).Writes
        (do return .capture scope (← g.deriveBody suffix d)) := hbody.capture
    refine (hcapture .empty).trans ?_
    simp only [HighlightPattern.empty_append]

/-- Where a reference stands does not matter for what is derived from it. -/
theorem deriveReference_moved {ids : List Nat} {tree : ScopedPattern} (span : Span)
    (h : g.deriveReference suffix budget ids r = .ok tree) :
    g.deriveReference suffix budget ids ⟨r.name, span⟩ = .ok tree := by
  cases budget with
  | zero => cases h
  | succ budget =>
    rw [deriveReference] at h ⊢
    cases hfind : g.find? r.name with
    | none =>
      rw [hfind] at h
      cases h
    | some d =>
      simp only [hfind] at h ⊢
      split at h
      · cases h
      next hnew =>
        rw [if_neg hnew]
        exact h

/-- A reference contributes what it contributes anywhere. -/
theorem exists_fragment_of_writeReference {out p : HighlightPattern}
    (h : g.writeReference suffix expanding r out = .ok p) :
    ∃ fragment, p = out.append fragment ∧
      ∀ span, g.writeReference suffix [] ⟨r.name, span⟩ .empty = .ok fragment := by
  rw [writes_writeReference (g.remaining_lt expanding) r out] at h
  obtain ⟨tree, htree, rfl⟩ := map_eq_ok_iff.mp h
  refine ⟨tree.toHighlight, rfl, fun span => ?_⟩
  have halone := deriveReference_moved span
    (deriveReference_mono (Nat.le_refl _) (List.nil_subset _) htree)
  rw [writes_writeReference (g.remaining_lt []) _ .empty, List.map_nil, halone]
  exact congrArg Except.ok (HighlightPattern.empty_append _)

/-- Whatever has been written before and whatever is being expanded, an element adds what is written
for it on its own, with its captures numbered behind those before, or its error is the same. So a
sequence is one part behind the other, captures are numbered from one on without gaps, and a
reference adds the same wherever it can be expanded. -/
theorem writing_compositional (g : Grammar) (suffix : Option String)
    (expanding : List Definition) :
    (∀ e out, g.writeElement suffix expanding e out =
      (g.writeElement suffix expanding e .empty).map out.append) ∧
    (∀ span left right, g.writeElement suffix expanding (.sequence span left right) .empty = do
      let first ← g.writeElement suffix expanding left .empty
      let second ← g.writeElement suffix expanding right .empty
      return first.append second) ∧
    (∀ e out p, out.Consecutive → g.writeElement suffix expanding e out = .ok p →
      p.Consecutive) ∧
    (∀ d p, g.writeBody suffix d = .ok p ∨ g.writeScoped suffix d = .ok p → p.Consecutive) ∧
    ∀ span name out p, g.writeElement suffix expanding (.reference span name) out = .ok p →
      ∃ fragment, p = out.append fragment ∧ ∀ place,
        g.writeElement suffix [] (.reference place name) .empty = .ok fragment := by
  have happend (e : Element) (out : HighlightPattern) :
      g.writeElement suffix expanding e out =
        (g.writeElement suffix expanding e .empty).map out.append := by
    obtain ⟨derived, hderived⟩ := g.exists_writes_writeElement suffix expanding e
    exact hderived.eq_append out
  refine ⟨happend, fun span left right => ?_, fun e out p hout h => ?_, fun d p h => ?_,
    fun span name out p h => exists_fragment_of_writeReference h⟩
  · have hsequence : g.writeElement suffix expanding (.sequence span left right) .empty =
        (g.writeElement suffix expanding left .empty >>=
          g.writeElement suffix expanding right) := rfl
    rw [hsequence]
    exact bind_congr fun first => happend right first
  · obtain ⟨derived, hderived⟩ := g.exists_writes_writeElement suffix expanding e
    rw [hderived out] at h
    obtain ⟨tree, _, rfl⟩ := map_eq_ok_iff.mp h
    exact hout.append tree.consecutive_toHighlight
  · rw [writeBody_eq, writeScoped_eq, map_eq_ok_iff, map_eq_ok_iff] at h
    rcases h with ⟨tree, _, rfl⟩ | ⟨tree, _, rfl⟩
    · exact tree.consecutive_toHighlight
    · exact tree.consecutive_toHighlight

/-- A word behind a word, and behind something with another scope. -/
theorem itemGrammar_words :
    (itemGrammar "-").writeElement none [] (.reference ⟨16, 20⟩ "Word") .empty =
        .ok ⟨"([a-z]+)", [⟨1, "string"⟩]⟩ ∧
      (itemGrammar "-").writeElement none [itemDefinition "-"]
        (.sequence ⟨0, 20⟩ (.reference ⟨0, 4⟩ "Word") (.reference ⟨16, 20⟩ "Word"))
        ⟨"(-", [⟨1, "meta.item"⟩]⟩ =
          .ok ⟨"(-([a-z]+)([a-z]+)", [⟨1, "meta.item"⟩, ⟨2, "string"⟩, ⟨3, "string"⟩]⟩ := by
  have hword (expanding : List Definition) (span : Span)
      (hderive : (itemGrammar "-").deriveReference none 3 (expanding.map Definition.id)
        ⟨"Word", span⟩ = .ok (.capture "string" (.regex "[a-z]+" 1))) :
      (itemGrammar "-").writeElement none expanding (.reference span "Word") .empty =
        .ok ⟨"([a-z]+)", [⟨1, "string"⟩]⟩ := by
    refine (writes_writeReference (remaining_lt _ expanding) ⟨"Word", span⟩ .empty).trans ?_
    rw [show (itemGrammar "-").size + 1 = 3 from rfl, hderive]
    rfl
  obtain ⟨happend, hsequence, _⟩ :=
    writing_compositional (itemGrammar "-") none [itemDefinition "-"]
  refine ⟨hword [] ⟨16, 20⟩ rfl, ?_⟩
  rw [happend, hsequence, hword [itemDefinition "-"] ⟨0, 4⟩ rfl,
    hword [itemDefinition "-"] ⟨16, 20⟩ rfl]
  rfl

end Grammar

end Peg
