import Peg.Proofs.Regex.Lengthening

/-!
# The parts of a longer pattern

Every part of a pattern is read as before when a closing parenthesis is put behind the pattern, and
so is everything up to the end of the pattern or of a group.
-/

namespace Peg.Regex

open Peg.Text

namespace Scanner

variable {α β : Type} {p : Spot} {c : Char} {cs : List Char}

/-- To move on where the end must not be reached is to move on. -/
theorem advanceSpace_of_advanceSpaceOr {e : PatternError} {s s' : Scan} {u : Unit}
    (h : advanceSpaceOr e s = .ok (u, s')) : advanceSpace s = .ok ((), s') ∧ s'.rest ≠ [] := by
  obtain ⟨next, hnext⟩ : ∃ next, advanceSpace s = .ok ((), next) := ⟨_, rfl⟩
  have hrun : advanceSpaceOr e s =
      (if next.rest.isEmpty then fail e else pure () : Scanner Unit) next := by
    simp only [advanceSpaceOr, bind, StateT.bind, hnext, Except.bind]
    rfl
  rw [hrun] at h
  split at h
  · cases h
  next hmore =>
    cases h
    exact ⟨hnext, by simpa using hmore⟩

/-- A word boundary in braces is read in the same way in front of a tail. -/
theorem lengthensAt_wordBoundary (p : Spot) : LengthensAt p wordBoundary fun _ => wordBoundary := by
  refine lengthensAt_peek (fun c cs hrest => ?_) fun _ c? hc? => ?_
  · refine .ite (fun _ => lengthensAt_pure p _) fun _ => ?_
    refine lengthensAt_get ?_
    refine (lengthensAt_advanceSpaceOr hrest _).bind fun _ q hq _ => ?_
    have hmore := (advanceSpace_of_advanceSpaceOr hq).2
    refine lengthensAt_peek (fun c cs _ => ?_) fun hnil => absurd hnil hmore
    refine .ite (fun _ => ?_) fun _ => ?_
    · exact (lengthensAt_set q p).bind fun _ q _ _ => lengthensAt_pure q _
    refine lengthensAt_budget ((lengthensAt_taken (by decide) q).bind fun name q _ _ => ?_)
    refine lengthensAt_peek (fun c cs hrest => ?_) fun _ c? hc? => ?_
    · refine .ite (fun _ => lengthensAt_fail_bind) fun _ => ?_
      refine (lengthensAt_advance hrest).bind fun _ q _ _ => ?_
      split
      · exact lengthensAt_pure q _
      · exact lengthensAt_pure q _
      · exact lengthensAt_pure q _
      · exact lengthensAt_pure q _
      · exact lengthensAt_fail
    · exact lengthensAt_fail_bind
  · have hother : c? ≠ some '\x7b' := ne_of_end hc? (by decide)
    simpa [hother] using lengthensAt_pure p _

/-- An escape is read in the same way in front of a tail. -/
theorem lengthensAt_escape (hrest : p.scan.rest = c :: cs) :
    LengthensAt p escape fun _ => escape := by
  refine (lengthensAt_advance hrest).bind fun _ q _ _ => ?_
  refine lengthensAt_peekOr fun c cs hrest => ?_
  refine .ite (fun _ => lengthensAt_fail_bind) fun _ => ?_
  refine .ite (fun _ => ?_) fun _ => ?_
  · exact (lengthensAt_hexEscape hrest c).bind fun l q _ _ => lengthensAt_pure q _
  refine .ite (fun _ => ?_) fun _ => ?_
  · exact (lengthensAt_propertyQuery hrest).bind fun l q _ _ => lengthensAt_pure q _
  refine (lengthensAt_advance hrest).bind fun _ q _ _ => ?_
  split
  · exact lengthensAt_pure q _
  refine .ite (fun _ => lengthensAt_pure q _) fun _ => ?_
  split
  · exact lengthensAt_pure q _
  split
  · exact lengthensAt_pure q _
  · exact lengthensAt_pure q _
  · exact (lengthensAt_wordBoundary q).bind fun a q _ _ => lengthensAt_pure q _
  · exact lengthensAt_pure q _
  · exact lengthensAt_pure q _
  · exact lengthensAt_pure q _
  · exact lengthensAt_fail

/-- A single character, escape or dot is read in the same way in front of a tail. -/
theorem lengthensAt_primitive (hrest : p.scan.rest = c :: cs) (d : Char) :
    LengthensAt p (primitive d) fun _ => primitive d := by
  refine .ite (fun _ => lengthensAt_escape hrest) fun _ => ?_
  refine (lengthensAt_advance hrest).bind fun _ q _ _ => ?_
  split
  · exact lengthensAt_pure q _
  · exact lengthensAt_pure q _
  · exact lengthensAt_pure q _
  · exact lengthensAt_pure q _

/-- An item of a bracketed class is read in the same way in front of a tail. -/
theorem lengthensAt_classItem (p : Spot) : LengthensAt p classItem fun _ => classItem := by
  refine lengthensAt_peekOr fun c cs hrest => ?_
  refine .ite (fun _ => lengthensAt_escape hrest) fun _ => ?_
  exact (lengthensAt_advance hrest).bind fun _ q _ _ => lengthensAt_pure q _

/-- What an item adds to a bracketed class does not depend on a tail. -/
theorem lengthensAt_classMember (p : Spot) (a : Ast) :
    LengthensAt p (classMember a) fun _ => classMember a := by
  unfold classMember
  split
  · exact lengthensAt_pure p _
  · exact lengthensAt_pure p _
  · exact lengthensAt_pure p _
  · exact lengthensAt_fail

/-- The end of a range is read in the same way in front of a tail. -/
theorem lengthensAt_rangeEnd (p : Spot) (a : Ast) :
    LengthensAt p (rangeEnd a) fun _ => rangeEnd a := by
  unfold rangeEnd
  split
  · exact lengthensAt_pure p _
  · exact lengthensAt_fail

/-- Read what closes an ASCII class of the given name, or go back to the start. -/
def closeAscii (start : Scan) (negated : Bool) (name : String) : Scanner (Option ClassSet) := do
  let closed ← takeText ":]"
  match asciiClassOf? name with
  | some kind => if closed then return some (.ascii kind negated)
  | none => pure ()
  set start
  return none

/-- Read the rest of an ASCII class behind its negation, or go back to the start. -/
def asciiName (start : Scan) (negated : Bool) : Scanner (Option ClassSet) := do
  let s ← get
  let name := String.ofList (s.rest.takeWhile (· != ':'))
  set { s with rest := s.rest.dropWhile (· != ':') }
  closeAscii start negated name

/-- Nothing is left of a text without a colon when all up to its first colon is dropped. -/
theorem dropWhile_colon_of_not_mem {cs : List Char} (h : ':' ∉ cs) :
    cs.dropWhile (· != ':') = [] := by
  induction cs with
  | nil => rfl
  | cons c cs ih =>
    rw [List.mem_cons, not_or] at h
    simpa [Ne.symm h.1] using ih h.2

/-- Up to the first colon it makes no difference what is behind the pattern. -/
theorem colon_append {cs : List Char} (h : ':' ∈ cs) (rest : List Char) :
    (cs ++ rest).takeWhile (· != ':') = cs.takeWhile (· != ':') ∧
      (cs ++ rest).dropWhile (· != ':') = cs.dropWhile (· != ':') ++ rest := by
  induction cs with
  | nil => cases h
  | cons c cs ih =>
    by_cases hc : c = ':'
    · simp [hc]
    · have hcs : ':' ∈ cs := (List.mem_cons.mp h).resolve_left (Ne.symm hc)
      simpa [hc] using ih hcs

/-- Without a colon nothing closes the name. -/
theorem asciiName_of_colonless (start : Scan) (negated : Bool) {s : Scan} (h : ':' ∉ s.rest) :
    asciiName start negated s = .ok (none, start) := by
  have hrun : asciiName start negated s =
      closeAscii start negated (String.ofList (s.rest.takeWhile (· != ':')))
        { s with rest := s.rest.dropWhile (· != ':') } := rfl
  rw [hrun, dropWhile_colon_of_not_mem h]
  have hclose : ∀ name, closeAscii start negated name { s with rest := [] } =
      .ok (none, start) := by
    intro name
    unfold closeAscii
    cases asciiClassOf? name with
    | none => rfl
    | some kind => rfl
  exact hclose _

/-- A class that is not closed leads back to the start. -/
theorem eq_of_closeAscii_eq_none {start s s' : Scan} {negated : Bool} {name : String}
    (h : closeAscii start negated name s = .ok (none, s')) : s' = start := by
  obtain ⟨closed, s₁, _, h⟩ := bind_eq_ok.mp h
  generalize asciiClassOf? name = kind? at h
  cases kind? with
  | none =>
    cases h
    rfl
  | some kind =>
    cases closed with
    | true => cases h
    | false =>
      cases h
      rfl

/-- The end of an ASCII class is found in the same place in front of a tail, and so is the start to
which a failure goes back. -/
theorem lengthensAt_closeAscii (p start : Spot) (negated : Bool) (name : String) :
    LengthensAt p (closeAscii start.scan negated name)
      fun t => closeAscii (start.before t) negated name := by
  refine (lengthensAt_takeText p (by decide)).bind fun closed q _ _ => ?_
  have hback : LengthensAt q (do set start.scan; return none : Scanner (Option ClassSet))
      fun t => do set (start.before t); return none :=
    (lengthensAt_set q start).bind fun _ q _ _ => lengthensAt_pure q none
  cases asciiClassOf? name with
  | none => exact hback
  | some kind => exact .ite (fun _ => lengthensAt_pure q _) fun _ => hback

/-- The name of an ASCII class is read in the same way in front of a tail, as no colon is in the
tail. -/
theorem lengthensAt_asciiName (p start : Spot) (negated : Bool) :
    LengthensAt p (asciiName start.scan negated) fun t => asciiName (start.before t) negated := by
  by_cases hcolon : ':' ∈ p.scan.rest
  · obtain ⟨q, hq, hmoved⟩ := p.exists_moved List.dropWhile_nil fun t =>
      (colon_append hcolon t.chars).2
    have hname : ∀ t, (p.before t).rest.takeWhile (· != ':') =
        p.scan.rest.takeWhile (· != ':') := by
      intro t
      unfold Spot.before
      split
      · rfl
      · exact (colon_append hcolon t.chars).1
    refine lengthensAt_get ?_
    simp only [← hq, ← hmoved, hname]
    exact (lengthensAt_set p q).bind fun _ r _ _ => lengthensAt_closeAscii r start negated _
  · intro a s h
    rw [asciiName_of_colonless _ _ hcolon] at h
    cases h
    refine ⟨start, rfl, fun t => asciiName_of_colonless _ _ ?_⟩
    unfold Spot.before
    split
    · exact hcolon
    · simpa [Tail.chars] using ⟨hcolon, t.colonless⟩

/-- An ASCII class is read in three parts: its opening, its negation, and its name with what closes
it. -/
theorem asciiClass_eq : asciiClass? = (do
    let start ← get
    if !(← takeText "[:") then return none
    let negated ← takeText "^"
    asciiName start negated) := rfl

/-- An ASCII class, or the absence of one, is read in the same way in front of a tail. -/
theorem lengthensAt_asciiClass (p : Spot) : LengthensAt p asciiClass? fun _ => asciiClass? := by
  rw [asciiClass_eq]
  refine lengthensAt_get ?_
  refine (lengthensAt_takeText p (by decide)).bind fun opened q _ _ => ?_
  refine .ite (fun _ => lengthensAt_pure q none) fun _ => ?_
  refine (lengthensAt_takeText q (by decide)).bind fun negated q _ _ => ?_
  exact lengthensAt_asciiName q p negated

/-- If there is no ASCII class next then nothing has been read. -/
theorem eq_of_asciiClass_eq_none {s s' : Scan} (h : asciiClass? s = .ok (none, s')) : s' = s := by
  rw [asciiClass_eq] at h
  obtain ⟨opened, s₁, hopened, h⟩ := bind_eq_ok.mp
    (show (takeText "[:" >>= fun opened => if !opened then pure none
      else takeText "^" >>= fun negated => asciiName s negated) s = .ok (none, s') from h)
  cases opened with
  | false =>
    cases h
    exact eq_of_takeText_eq_false hopened
  | true =>
    obtain ⟨negated, s₂, _, h⟩ := bind_eq_ok.mp h
    have hclose : closeAscii s negated (String.ofList (s₂.rest.takeWhile (· != ':')))
      { s₂ with rest := s₂.rest.dropWhile (· != ':') } = .ok (none, s') := h
    exact eq_of_closeAscii_eq_none hclose

/-- Whether a hyphen makes no range in front of this character. -/
def endsRange (c? : Option Char) : Bool :=
  c? = some ']' || c? = some '-'

/-- Behind space, a tail shows nothing but its parenthesis, and this only if the pattern has nothing
more. -/
theorem behindSpace_append (cs : List Char) (inComment : Bool) (t : Tail) :
    behindSpace? inComment (cs ++ t.chars) = (behindSpace? inComment cs <|> some ')') := by
  have hclosing : isBlank ')' = false := rfl
  induction cs generalizing inComment with
  | nil => simp [behindSpace?, Tail.chars, hclosing]
  | cons c cs ih =>
    simp only [List.cons_append, behindSpace?]
    split
    · exact ih _
    split
    · exact ih _
    · rfl

/-- If nothing but blanks and signs of comments is left, then no character ends a range. -/
theorem endsRange_of_behindSpace {cs : List Char} (h : behindSpace? false cs = none) :
    endsRange cs.head? = false := by
  cases cs with
  | nil => rfl
  | cons c cs =>
    have hbracket : isBlank ']' = false := rfl
    have hhyphen : isBlank '-' = false := rfl
    by_cases hc : c = ']' ∨ c = '-'
    · rcases hc with rfl | rfl
      · simp [behindSpace?, hbracket] at h
      · simp [behindSpace?, hhyphen] at h
    · rw [not_or] at hc
      simp [endsRange, hc]

/-- The character behind the next one, and behind the space after it in verbose mode. -/
def secondOf (verbose : Bool) (cs : List Char) : Option Char :=
  if verbose then behindSpace? false cs.tail <|> cs[1]? else cs[1]?

/-- Whether the second character ends a range is the same in front of a tail. -/
theorem endsRange_secondOf_append (verbose : Bool) (c : Char) (cs : List Char) (t : Tail) :
    endsRange (secondOf verbose (c :: (cs ++ t.chars))) =
      endsRange (secondOf verbose (c :: cs)) := by
  have hhead : endsRange (cs ++ t.chars).head? = endsRange cs.head? := by
    cases cs with
    | nil => rfl
    | cons => rfl
  cases verbose with
  | false => simpa [secondOf, List.head?_eq_getElem?] using hhead
  | true =>
    simp only [secondOf, if_true, List.tail_cons, behindSpace_append]
    cases hspace : behindSpace? false cs with
    | some d => rfl
    | none =>
      have hends := endsRange_of_behindSpace hspace
      rw [List.head?_eq_getElem?] at hends
      exact hends.symm

/-- A tail does not change whether a hyphen makes a range. -/
theorem lengthensAt_peekBehindSpace (hrest : p.scan.rest = c :: cs)
    {k : Option Char → Scanner β} {k' : Tail → Option Char → Scanner β}
    (hk : ∀ c? (c?' : Tail → Option Char), (∀ t, endsRange (c?' t) = endsRange c?) →
      LengthensAt p (k c?) fun t => k' t (c?' t)) :
    LengthensAt p (peekBehindSpace? >>= k) fun t => peekBehindSpace? >>= k' t := by
  have hpeek : ∀ s, peekBehindSpace? s = .ok (secondOf s.verbose s.rest, s) := by
    rintro ⟨rest, verbose, names⟩
    cases verbose with
    | false => rfl
    | true => rfl
  have hrun : ∀ (k : Option Char → Scanner β) (s : Scan),
      (peekBehindSpace? >>= k) s = k (secondOf s.verbose s.rest) s := by
    intro k s
    simp only [bind, StateT.bind, hpeek, Except.bind]
  have hends : ∀ t, endsRange (secondOf (p.before t).verbose (p.before t).rest) =
      endsRange (secondOf p.scan.verbose p.scan.rest) := by
    intro t
    rw [Spot.rest_before hrest, Spot.verbose_before, hrest]
    exact endsRange_secondOf_append _ c cs t
  intro a s h
  rw [hrun] at h
  simp only [hrun]
  exact hk _ _ hends a s h

/-- A range, or a single item, is read in the same way in front of a tail. -/
theorem lengthensAt_classRange (p : Spot) : LengthensAt p classRange fun _ => classRange := by
  refine (lengthensAt_classItem p).bind fun first q _ _ => ?_
  refine (lengthensAt_skipSpace q).bind fun _ q _ _ => ?_
  refine lengthensAt_peekOr fun c cs hrest => ?_
  refine lengthensAt_peekBehindSpace hrest fun c? c?' hends => ?_
  have hsame : ∀ c? : Option Char, (c != '-' || decide (c? = some ']') || decide (c? = some '-')) =
      (c != '-' || endsRange c?) := fun c? => Bool.or_assoc ..
  simp only [hsame, hends]
  refine .ite (fun _ => lengthensAt_classMember q first) fun _ => ?_
  refine (lengthensAt_advanceSpaceOr hrest _).bind fun _ q _ _ => ?_
  refine (lengthensAt_classItem q).bind fun last q _ _ => ?_
  refine (lengthensAt_rangeEnd q first).bind fun low q _ _ => ?_
  refine (lengthensAt_rangeEnd q last).bind fun high q _ _ => ?_
  exact .ite (fun _ => lengthensAt_pure q _) fun _ => lengthensAt_fail

/-- Leading hyphens are read in the same way in front of a tail, given enough fuel for both
readings. -/
theorem lengthensAt_leadingHyphens {fuel : Nat} {fuel' : Tail → Nat}
    (hfuel : p.scan.rest.length < fuel) (hfuel' : ∀ t, (p.before t).rest.length < fuel' t) :
    LengthensAt p (leadingHyphens fuel) fun t => leadingHyphens (fuel' t) := by
  induction fuel generalizing p fuel' with
  | zero => omega
  | succ fuel ih =>
    obtain ⟨m, rfl⟩ := exists_eq_succ hfuel'
    refine lengthensAt_peek (fun c cs hrest => .ite (fun _ => ?_) fun _ => lengthensAt_pure p [])
      fun _ c? hc? => ?_
    · refine (lengthensAt_advanceSpaceOr hrest _).bind fun _ q hq hq' => ?_
      have hlt := length_of_advanceSpace hrest (advanceSpace_of_advanceSpaceOr hq).1
      have hm : ∀ t, (q.before t).rest.length < m t := by
        intro t
        have hlt' := length_of_advanceSpace (Spot.rest_before hrest)
          (advanceSpace_of_advanceSpaceOr (hq' t)).1
        exact Nat.lt_of_lt_of_le hlt' (Nat.le_of_lt_succ (hfuel' t))
      exact (ih (by omega) hm).bind fun hyphens q _ _ => lengthensAt_pure q _
    · have hother : c? ≠ some '-' := ne_of_end hc? (by decide)
      simpa only [hother, reduceCtorEq, if_false] using lengthensAt_pure p []

/-- The hyphens or the bracket that stand for themselves at the start of a bracketed class. -/
def classHead (negated : Bool) : Scanner (Bool × List ClassSet) := do
  let hyphens ← leadingHyphens (← budget)
  if hyphens.isEmpty && (← peek?) = some ']' then
    advanceSpaceOr .classUnclosed
    return (negated, [.literal ⟨']', false⟩])
  return (negated, hyphens)

/-- What stands for itself at the start of a class is read in the same way in front of a tail. -/
theorem lengthensAt_classHead (p : Spot) (negated : Bool) :
    LengthensAt p (classHead negated) fun _ => classHead negated := by
  refine lengthensAt_budget ((lengthensAt_leadingHyphens (Nat.lt_succ_self _)
    fun t => Nat.lt_succ_self _).bind fun hyphens q _ _ => ?_)
  refine lengthensAt_peek (fun c cs hrest => .ite (fun _ => ?_) fun _ => lengthensAt_pure q _)
    fun _ c? hc? => ?_
  · exact (lengthensAt_advanceSpaceOr hrest _).bind fun _ q _ _ => lengthensAt_pure q _
  · have hother : c? ≠ some ']' := ne_of_end hc? (by decide)
    simpa [hother] using lengthensAt_pure q (negated, hyphens)

/-- The start of a bracketed class is read in the same way in front of a tail. -/
theorem lengthensAt_classStart (hrest : p.scan.rest = c :: cs) :
    LengthensAt p classStart fun _ => classStart := by
  have hstart : classStart = (do
      advanceSpaceOr .classUnclosed
      let c? ← peek?
      if c? = some '^' then advanceSpaceOr .classUnclosed
      classHead (c? = some '^')) := rfl
  rw [hstart]
  refine (lengthensAt_advanceSpaceOr hrest _).bind fun _ q hq _ => ?_
  have hmore := (advanceSpace_of_advanceSpaceOr hq).2
  refine lengthensAt_peek (fun c cs hrest => ?_) fun hnil => absurd hnil hmore
  refine .ite (fun _ => ?_) fun _ => lengthensAt_classHead q _
  exact (lengthensAt_advanceSpaceOr hrest _).bind fun _ q _ _ => lengthensAt_classHead q _

/-- The operator at the start of a text. -/
def operatorOf? : List Char → Option ClassOperator
  | '&' :: '&' :: _ => some .intersection
  | '-' :: '-' :: _ => some .difference
  | '~' :: '~' :: _ => some .symmetricDifference
  | _ => none

/-- A tail does not complete an operator, since a parenthesis is no sign of one. -/
theorem operatorOf_append (c : Char) (cs : List Char) (t : Tail) :
    operatorOf? (c :: (cs ++ t.chars)) = operatorOf? (c :: cs) := by
  cases cs with
  | nil => simp [operatorOf?, Tail.chars]
  | cons d cs =>
    unfold operatorOf?
    split
    next h =>
      cases h
      rfl
    next h =>
      cases h
      rfl
    next h =>
      cases h
      rfl
    next hintersection hdifference hsymmetric =>
      split
      next h =>
        cases h
        exact absurd rfl (hintersection _)
      next h =>
        cases h
        exact absurd rfl (hdifference _)
      next h =>
        cases h
        exact absurd rfl (hsymmetric _)
      · rfl

/-- Which operator comes next depends only on the text that is left. -/
theorem classOperator_eq : classOperator? = get >>= fun s => pure (operatorOf? s.rest) := by
  unfold classOperator?
  congr 1
  funext s
  fun_cases operatorOf? s.rest with
  | case1 => rfl
  | case2 => rfl
  | case3 => rfl
  | case4 _ hintersection hdifference hsymmetric =>
    split
    · exact absurd rfl (hintersection _)
    · exact absurd rfl (hdifference _)
    · exact absurd rfl (hsymmetric _)
    · rfl

/-- An operator between classes is recognized in the same way in front of a tail. -/
theorem lengthensAt_classOperator (hrest : p.scan.rest = c :: cs) :
    LengthensAt p classOperator? fun _ => classOperator? := by
  rw [classOperator_eq]
  refine lengthensAt_get ?_
  simp only [Spot.rest_before hrest, operatorOf_append, hrest]
  exact lengthensAt_pure p _

/-- An operator has two signs. -/
theorem rest_of_classOperator {s s' : Scan} {operator : ClassOperator}
    (h : classOperator? s = .ok (some operator, s')) :
    s' = s ∧ ∃ c d cs, s.rest = c :: d :: cs := by
  rw [classOperator_eq] at h
  have hoperator : operatorOf? s.rest = some operator ∧ s = s' := by
    simpa using Except.ok.inj h
  refine ⟨hoperator.2.symm, ?_⟩
  have hsome := hoperator.1
  unfold operatorOf? at hsome
  split at hsome
  next h => exact ⟨_, _, _, h⟩
  next h => exact ⟨_, _, _, h⟩
  next h => exact ⟨_, _, _, h⟩
  · cases hsome

/-- To advance is to drop one character. -/
theorem rest_of_advance {s s' : Scan} {u : Unit} (h : advance s = .ok (u, s')) :
    s'.rest = s.rest.tail := by
  cases h
  rfl

/-- The rest of a bracketed class is read in the same way in front of a tail, if the longer reading
has no less fuel. -/
theorem lengthensAt_classRest (p : Spot) (negated : Bool) {fuel : Nat} {fuel' : Tail → Nat}
    (hfuel : ∀ t, fuel ≤ fuel' t) (pending : Option (ClassOperator × ClassSet))
    (items : List ClassSet) :
    LengthensAt p (classRest negated fuel pending items)
      fun t => classRest negated (fuel' t) pending items := by
  induction fuel generalizing p negated fuel' pending items with
  | zero => exact lengthensAt_fail
  | succ fuel ih =>
    obtain ⟨m, rfl⟩ := exists_eq_succ hfuel
    have hm : ∀ t, fuel ≤ m t := fun t => Nat.le_of_succ_le_succ (hfuel t)
    refine (lengthensAt_skipSpace p).bind fun _ q _ _ => ?_
    refine lengthensAt_peekOr fun c cs hrest => ?_
    refine .ite (fun _ => ?_) fun _ => .ite (fun _ => ?_) fun _ => ?_
    · refine (lengthensAt_asciiClass q).bind fun item? q' hq _ => ?_
      cases item? with
      | some item => exact ih q' negated hm pending (item :: items)
      | none =>
        rw [← eq_of_asciiClass_eq_none hq] at hrest
        refine (lengthensAt_classStart hrest).bind fun start r _ _ => ?_
        refine (ih r start.1 hm none start.2).bind fun inner r _ _ => ?_
        exact ih r negated hm pending (inner :: items)
    · exact (lengthensAt_advance hrest).bind fun _ q _ _ => lengthensAt_pure q _
    · refine (lengthensAt_classOperator hrest).bind fun operator? q' hq _ => ?_
      cases operator? with
      | some operator =>
        obtain ⟨hsame, c, d, cs, hrest⟩ := rest_of_classOperator hq
        rw [← hsame] at hrest
        refine (lengthensAt_advance hrest).bind fun _ r hr _ => ?_
        have hrest' : r.scan.rest = d :: cs := by rw [rest_of_advance hr, hrest, List.tail_cons]
        refine (lengthensAt_advance hrest').bind fun _ r _ _ => ?_
        exact ih r negated hm _ []
      | none =>
        exact (lengthensAt_classRange q').bind fun item r _ _ => ih r negated hm pending _

/-- A bracketed class is read in the same way in front of a tail. -/
theorem lengthensAt_bracketed (hrest : p.scan.rest = c :: cs) :
    LengthensAt p bracketed fun _ => bracketed := by
  refine (lengthensAt_classStart hrest).bind fun start q _ _ => ?_
  refine lengthensAt_budget ((lengthensAt_classRest q start.1
    (fun t => Nat.succ_le_succ (q.length_le t)) none start.2).bind fun set q _ _ => ?_)
  split
  · exact lengthensAt_pure q _
  · exact lengthensAt_pure q _

/-- Flags are read in the same way in front of a tail, if the longer reading has no less fuel. -/
theorem lengthensAt_flagItems (p : Spot) {fuel : Nat} {fuel' : Tail → Nat}
    (hfuel : ∀ t, fuel ≤ fuel' t) (items : List FlagItem) :
    LengthensAt p (flagItems fuel items) fun t => flagItems (fuel' t) items := by
  induction fuel generalizing p fuel' items with
  | zero => exact lengthensAt_fail
  | succ fuel ih =>
    obtain ⟨m, rfl⟩ := exists_eq_succ hfuel
    have hm : ∀ t, fuel ≤ m t := fun t => Nat.le_of_succ_le_succ (hfuel t)
    refine lengthensAt_peekOr fun c cs hrest => ?_
    refine .ite (fun _ => ?_) fun _ => .ite (fun _ => ?_) fun _ => ?_
    · exact .ite (fun _ => lengthensAt_fail_bind) fun _ => lengthensAt_pure p _
    · refine .ite (fun _ => lengthensAt_fail_bind) fun _ => ?_
      exact (lengthensAt_advance hrest).bind fun _ q _ _ => ih q hm _
    · split
      · exact lengthensAt_fail
      · refine .ite (fun _ => lengthensAt_fail_bind) fun _ => ?_
        exact (lengthensAt_advance hrest).bind fun _ q _ _ => ih q hm _

/-- The characters of a group name are read in the same way in front of a tail. -/
theorem lengthensAt_nameChars (p : Spot) {fuel : Nat} {fuel' : Tail → Nat}
    (hfuel : ∀ t, fuel ≤ fuel' t) (name : List Char) :
    LengthensAt p (nameChars fuel name) fun t => nameChars (fuel' t) name := by
  induction fuel generalizing p fuel' name with
  | zero => exact lengthensAt_fail
  | succ fuel ih =>
    obtain ⟨m, rfl⟩ := exists_eq_succ hfuel
    have hm : ∀ t, fuel ≤ m t := fun t => Nat.le_of_succ_le_succ (hfuel t)
    refine lengthensAt_peekOr fun c cs hrest => ?_
    refine .ite (fun _ => ?_) fun _ => .ite (fun _ => lengthensAt_fail_bind) fun _ => ?_
    · exact (lengthensAt_advance hrest).bind fun _ q _ _ => lengthensAt_pure q _
    · exact (lengthensAt_advance hrest).bind fun _ q _ _ => ih q hm _

/-- The name of a group is read in the same way in front of a tail, and is taken for a duplicate in
the same cases. -/
theorem lengthensAt_groupName (p : Spot) : LengthensAt p groupName fun _ => groupName := by
  refine lengthensAt_budget ((lengthensAt_nameChars p
    (fun t => Nat.succ_le_succ (p.length_le t)) []).bind fun name q _ _ => ?_)
  refine .ite (fun _ => lengthensAt_fail_bind) fun _ => ?_
  refine lengthensAt_get ?_
  simp only [Spot.names_before]
  refine .ite (fun _ => lengthensAt_fail_bind) fun _ => ?_
  exact (lengthensAt_modify q fun _ _ => rfl).bind fun _ q _ _ => lengthensAt_pure q _

/-- A scan over a list is the same in front of a tail if each of its turns is. -/
theorem lengthensAt_forIn {γ σ : Type} {step : γ → σ → Scanner (ForInStep σ)} {l : List γ}
    (hstep : ∀ x ∈ l, ∀ state q, LengthensAt q (step x state) fun _ => step x state) (state : σ)
    (p : Spot) : LengthensAt p (forIn l state step) fun _ => forIn l state step := by
  induction l generalizing state p with
  | nil => exact lengthensAt_pure p state
  | cons x l ih =>
    obtain ⟨hx, hl⟩ := List.forall_mem_cons.mp hstep
    simp only [List.forIn_cons]
    refine (hx state p).bind fun next q _ _ => ?_
    cases next with
    | done state => exact lengthensAt_pure q state
    | yield state => exact ih hl state q

/-- Whether a lookaround comes next is the same in front of a tail. -/
theorem lengthensAt_lookAround (p : Spot) : LengthensAt p lookAround fun _ => lookAround := by
  refine (lengthensAt_forIn (fun sign hsign state q => ?_) _ p).bind fun result q _ _ => ?_
  · have hplain : ')' ∉ sign.toList := by
      revert sign
      decide
    refine (lengthensAt_takeText q hplain).bind fun found q _ _ => ?_
    exact .ite (fun _ => lengthensAt_pure q _) fun _ => lengthensAt_pure q _
  · obtain ⟨found?, _⟩ := result
    cases found? with
    | none => exact lengthensAt_pure q false
    | some found => exact lengthensAt_pure q found

/-- Of two tests the second one, too, comes out the same in front of a tail. -/
theorem lengthensAt_orElse {f g : Scanner Bool} (hf : LengthensAt p f fun _ => f)
    (hg : ∀ q, LengthensAt q g fun _ => g) : LengthensAt p (f <||> g) fun _ => f <||> g := by
  refine hf.bind fun found q _ _ => ?_
  cases found with
  | false => exact hg q
  | true => exact lengthensAt_pure q true

/-- A character that is looked at stays where it is, and there is one. -/
theorem peekOr_eq_ok {e : PatternError} {s s' : Scan} {c : Char}
    (h : peekOr e s = .ok (c, s')) : s' = s ∧ s.rest ≠ [] := by
  obtain ⟨rest, verbose, names⟩ := s
  cases rest with
  | nil => cases h
  | cons d rest =>
    cases h
    exact ⟨rfl, List.cons_ne_nil _ _⟩

/-- Flags end in front of a sign. -/
theorem rest_ne_nil_of_flagItems {fuel : Nat} {items items' : List FlagItem} {s s' : Scan}
    (h : flagItems fuel items s = .ok (items', s')) : s'.rest ≠ [] := by
  induction fuel generalizing items s with
  | zero => cases h
  | succ fuel ih =>
    obtain ⟨c, s₁, hpeek, hrun⟩ := bind_eq_ok.mp h
    obtain ⟨rfl, hmore⟩ := peekOr_eq_ok hpeek
    dsimp only at hrun
    split at hrun
    · split at hrun
      · cases hrun
      · cases hrun
        exact hmore
    split at hrun
    · split at hrun
      · cases hrun
      · obtain ⟨_, s₂, _, hrec⟩ := bind_eq_ok.mp hrun
        exact ih hrec
    generalize flagOf? c = flag? at hrun
    cases flag? with
    | none => cases hrun
    | some flag =>
      dsimp only at hrun
      split at hrun
      · cases hrun
      · obtain ⟨_, s₂, _, hrec⟩ := bind_eq_ok.mp hrun
        exact ih hrec

/-- What opens a group is read in the same way in front of a tail. -/
theorem lengthensAt_opening (hrest : p.scan.rest = c :: cs) :
    LengthensAt p opening fun _ => opening := by
  refine (lengthensAt_advanceSpace hrest).bind fun _ q _ _ => ?_
  refine (lengthensAt_lookAround q).bind fun found q _ _ => ?_
  refine .ite (fun _ => lengthensAt_fail_bind) fun _ => ?_
  refine (lengthensAt_orElse (lengthensAt_takeText q (by decide)) fun q =>
    lengthensAt_takeText q (by decide)).bind fun named q _ _ => ?_
  refine .ite (fun _ => ?_) fun _ => ?_
  · exact (lengthensAt_groupName q).bind fun name q _ _ => lengthensAt_pure q _
  refine (lengthensAt_takeText q (by decide)).bind fun special q _ _ => ?_
  refine .ite (fun _ => ?_) fun _ => lengthensAt_pure q _
  refine lengthensAt_atEnd (fun _ => ⟨_, rfl⟩) fun _ => ?_
  refine lengthensAt_budget ((lengthensAt_flagItems q
    (fun t => Nat.succ_le_succ (q.length_le t)) []).bind fun items q hq _ => ?_)
  have hmore := rest_ne_nil_of_flagItems hq
  refine lengthensAt_peek (fun c cs hrest => ?_) fun hnil => absurd hnil hmore
  refine (lengthensAt_advance hrest).bind fun _ q _ _ => ?_
  refine .ite (fun _ => ?_) fun _ => lengthensAt_pure q _
  exact .ite (fun _ => lengthensAt_fail_bind) fun _ => lengthensAt_pure q _

/-- The operand of a repetition is found in the same way in front of a tail. -/
theorem lengthensAt_operand (p : Spot) (parts : List Ast) :
    LengthensAt p (operand parts) fun _ => operand parts := by
  unfold operand
  split
  · exact lengthensAt_fail
  · exact .ite (fun _ => lengthensAt_pure p _) fun _ => lengthensAt_fail

/-- The sign of a lazy repetition is read in the same way in front of a tail. -/
theorem lengthensAt_greed (p : Spot) : LengthensAt p greed fun _ => greed := by
  refine lengthensAt_peek (fun c cs hrest => .ite (fun _ => ?_) fun _ => lengthensAt_pure p _)
    fun _ c? hc? => ?_
  · exact (lengthensAt_advance hrest).bind fun _ q _ _ => lengthensAt_pure q _
  · have hother : c? ≠ some '?' := ne_of_end hc? (by decide)
    simpa [hother] using lengthensAt_pure p true

/-- A number in braces is read in the same way in front of a tail. -/
theorem lengthensAt_count (p : Spot) : LengthensAt p count fun _ => count := by
  intro n s h
  have hdecimal : decimal p.scan = .ok (n, s) := by
    unfold count at h
    split at h
    · cases h
    · exact h
  obtain ⟨q, hq, hrun⟩ := lengthensAt_decimal p n s hdecimal
  refine ⟨q, hq, fun t => ?_⟩
  have hrun : decimal (p.before t) = .ok (n, q.before t) := hrun t
  simp only [count, hrun]

/-- The bounds of a counted repetition behind its first number. -/
def bounds (first : Except PatternError Nat) : Scanner (Nat × Option Nat) := do
  let c ← peekOr .repetitionCountUnclosed
  if c = ',' then do
    advanceSpaceOr .repetitionCountUnclosed
    if (← peek?) != some '\x7d' then
      let low ← (first : Except PatternError Nat)
      let high ← count
      return (low, some high)
    else return (← (first : Except PatternError Nat), none)
  else do
    let exact ← (first : Except PatternError Nat)
    return (exact, some exact)

/-- The end of a counted repetition with the given bounds. -/
def closeCounted (body : Ast) (min : Nat) (max : Option Nat) : Scanner Ast := do
  if (← peek?) != some '\x7d' then fail .repetitionCountUnclosed
  advanceSpace
  let greedy ← greed
  if (max.map fun high => decide (high < min)) = some true then fail .repetitionCountInvalid
  return .repetition min max greedy body

/-- A counted repetition is read in three parts: its first number, its other bound, and its closing
brace. -/
theorem countedRepetition_eq (body : Ast) : countedRepetition body = (do
    advanceSpaceOr .repetitionCountUnclosed
    let start ← get
    let (first, afterFirst) : Except PatternError Nat × Scan :=
      match count start with
      | .ok (n, s) => (.ok n, s)
      | .error e => (.error e, countedRepetition.skipNumber start)
    set afterFirst
    let (min, max) ← bounds first
    closeCounted body min max) := by
  conv_rhs => simp only [bounds, closeCounted, bind_assoc]
  rfl

/-- Without a first number there are no bounds. -/
theorem bounds_error_ne_ok {e : PatternError} {s s' : Scan} {b : Nat × Option Nat} :
    bounds (.error e) s ≠ .ok (b, s') := by
  intro h
  obtain ⟨c, s₁, _, hrun⟩ := bind_eq_ok.mp h
  split at hrun
  · obtain ⟨_, s₂, _, hrun⟩ := bind_eq_ok.mp hrun
    obtain ⟨_, s₃, _, hrun⟩ := bind_eq_ok.mp hrun
    split at hrun
    · cases hrun
    · cases hrun
  · cases hrun

/-- The bounds of a counted repetition are read in the same way in front of a tail. -/
theorem lengthensAt_bounds (p : Spot) (n : Nat) :
    LengthensAt p (bounds (.ok n)) fun _ => bounds (.ok n) := by
  refine lengthensAt_peekOr fun c cs hrest => .ite (fun _ => ?_) fun _ => lengthensAt_pure p _
  refine (lengthensAt_advanceSpaceOr hrest _).bind fun _ q hq _ => ?_
  have hmore := (advanceSpace_of_advanceSpaceOr hq).2
  refine lengthensAt_peek (fun c cs hrest => ?_) fun hnil => absurd hnil hmore
  have hfirst : (liftM (Except.ok n : Except PatternError Nat) : Scanner Nat) = pure n := rfl
  simp only [hfirst, pure_bind]
  refine .ite (fun _ => ?_) fun _ => lengthensAt_pure q _
  exact (lengthensAt_count q).bind fun high q _ _ => lengthensAt_pure q _

/-- The end of a counted repetition is read in the same way in front of a tail. -/
theorem lengthensAt_closeCounted (p : Spot) (body : Ast) (min : Nat) (max : Option Nat) :
    LengthensAt p (closeCounted body min max) fun _ => closeCounted body min max := by
  refine lengthensAt_peek (fun c cs hrest => ?_) fun _ c? hc? => lengthensAt_fail_bind
  refine .ite (fun _ => lengthensAt_fail_bind) fun _ => ?_
  refine (lengthensAt_advanceSpace hrest).bind fun _ q _ _ => ?_
  refine (lengthensAt_greed q).bind fun greedy q _ _ => ?_
  exact .ite (fun _ => lengthensAt_fail_bind) fun _ => lengthensAt_pure q _

/-- A counted repetition is read in the same way in front of a tail. -/
theorem lengthensAt_countedRepetition (hrest : p.scan.rest = c :: cs) (body : Ast) :
    LengthensAt p (countedRepetition body) fun _ => countedRepetition body := by
  rw [countedRepetition_eq]
  refine (lengthensAt_advanceSpaceOr hrest _).bind fun _ q _ _ => ?_
  refine lengthensAt_get ?_
  cases hfirst : count q.scan with
  | error e =>
    intro a s h
    obtain ⟨_, s₁, _, h⟩ := bind_eq_ok.mp h
    obtain ⟨b, s₂, hbounds, _⟩ := bind_eq_ok.mp h
    exact absurd hbounds bounds_error_ne_ok
  | ok r =>
    obtain ⟨n, s⟩ := r
    obtain ⟨r, rfl, hcount⟩ := lengthensAt_count q n s hfirst
    simp only [hcount]
    refine (lengthensAt_set q r).bind fun _ r _ _ => ?_
    exact (lengthensAt_bounds r n).bind fun b r _ _ => lengthensAt_closeCounted r body b.1 b.2

end Scanner

end Peg.Regex
