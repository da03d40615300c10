import Mathlib.Data.List.Basic
import Peg.Regex.Parser

/-!
# Patterns with something behind them

When a closing parenthesis and more text are put behind a pattern, it is read as before, up to the
parenthesis. The exception is a pattern whose end lies in a comment: there the parenthesis is a part
of the comment, and so is everything behind it on the same line.
-/

namespace Peg.Regex

open Peg.Text

/-- What is put behind a pattern: a closing parenthesis and some text that ends no comment and no
name of a class. -/
structure Tail where
  after : List Char
  sameLine : '\n' ∉ after
  colonless : ':' ∉ after

/-- The characters of a tail. -/
def Tail.chars (t : Tail) : List Char :=
  ')' :: t.after

/-- A state in which a pattern is read, and whether a comment would hide what is behind the
pattern. -/
structure Spot where
  scan : Scan
  hidden : Bool
  used : hidden = true → scan.rest = []

namespace Spot

/-- A state from which on no comment has hidden anything. -/
def plain (s : Scan) : Spot :=
  ⟨s, false, nofun⟩

/-- The state in which the pattern is read when a tail is behind it. -/
def before (p : Spot) (t : Tail) : Scan :=
  if p.hidden then p.scan else { p.scan with rest := p.scan.rest ++ t.chars }

variable {p : Spot} {t : Tail} {c : Char} {cs : List Char}

/-- Where nothing is hidden, the tail follows what is left of the pattern. -/
@[simp] theorem before_plain (s : Scan) :
    (plain s).before t = { s with rest := s.rest ++ t.chars } := rfl

/-- A tail does not change the mode. -/
@[simp] theorem verbose_before : (p.before t).verbose = p.scan.verbose := by
  unfold before
  split
  · rfl
  · rfl

/-- A tail does not change the names that have been used. -/
@[simp] theorem names_before : (p.before t).names = p.scan.names := by
  unfold before
  split
  · rfl
  · rfl

/-- With a tail there is no less to read. -/
theorem length_le (p : Spot) (t : Tail) : p.scan.rest.length ≤ (p.before t).rest.length := by
  unfold before
  split
  · exact Nat.le_refl _
  · simp

/-- As long as there is something to read, nothing is hidden. -/
theorem eq_plain (h : p.scan.rest = c :: cs) : p = plain p.scan := by
  obtain ⟨s, hidden, used⟩ := p
  cases hidden with
  | false => rfl
  | true => simp [used rfl] at h

/-- In front of a character of the pattern nothing is hidden, and the tail follows the rest. -/
theorem rest_before (h : p.scan.rest = c :: cs) : (p.before t).rest = c :: (cs ++ t.chars) := by
  rw [eq_plain h, before_plain]
  simp [h]

end Spot

/-- Where a move leads that passes over characters of the pattern and not of the tail. -/
theorem Spot.exists_moved (p : Spot) {move : List Char → List Char} (hnil : move [] = [])
    (hmove : ∀ t : Tail, move (p.scan.rest ++ t.chars) = move p.scan.rest ++ t.chars) :
    ∃ q : Spot, q.scan = { p.scan with rest := move p.scan.rest } ∧
      ∀ t, q.before t = { p.before t with rest := move (p.before t).rest } := by
  obtain ⟨s, hidden, hused⟩ := p
  cases hidden with
  | true =>
    have hrest : move s.rest = [] := by rw [hused rfl, hnil]
    exact ⟨⟨{ s with rest := move s.rest }, true, fun _ => hrest⟩, rfl, fun _ => rfl⟩
  | false =>
    refine ⟨plain { s with rest := move s.rest }, rfl, fun t => ?_⟩
    exact congrArg (fun rest => { s with rest := rest }) (hmove t).symm

/-- Where `f` succeeds, `g` does the same with a tail behind the pattern. -/
def LengthensAt {α : Type} (p : Spot) (f : Scanner α) (g : Tail → Scanner α) : Prop :=
  ∀ a s, f p.scan = .ok (a, s) →
    ∃ q : Spot, q.scan = s ∧ ∀ t, g t (p.before t) = .ok (a, q.before t)

/-- A step in two parts has a result if the second part has one where the first one has led. -/
theorem Scanner.bind_eq_ok {α β : Type} {f : Scanner α} {k : α → Scanner β} {s s' : Scan} {b : β} :
    (f >>= k) s = .ok (b, s') ↔ ∃ a s₁, f s = .ok (a, s₁) ∧ k a s₁ = .ok (b, s') := by
  simp only [bind, StateT.bind]
  cases hf : f s with
  | error e => simp [Except.bind]
  | ok r =>
    obtain ⟨a, s₁⟩ := r
    simp [Except.bind]

/-- An error in the first part is an error of the whole. -/
theorem Scanner.bind_of_error {α β : Type} {f : Scanner α} {s : Scan} {e : PatternError}
    (h : f s = .error e) (k : α → Scanner β) : (f >>= k) s = .error e := by
  simp only [bind, StateT.bind, h]
  rfl

namespace LengthensAt

variable {α β : Type} {p : Spot} {f : Scanner α} {g : Tail → Scanner α}

/-- A step that follows goes on from where the first one has led. -/
theorem bind {k : α → Scanner β} {k' : Tail → α → Scanner β} (hf : LengthensAt p f g)
    (hk : ∀ a (q : Spot), f p.scan = .ok (a, q.scan) →
      (∀ t, g t (p.before t) = .ok (a, q.before t)) → LengthensAt q (k a) fun t => k' t a) :
    LengthensAt p (f >>= k) fun t => g t >>= k' t := by
  intro b s h
  obtain ⟨a, s', hrun, h⟩ := Scanner.bind_eq_ok.mp h
  obtain ⟨q, rfl, hg⟩ := hf a s' hrun
  obtain ⟨r, hr, hrest⟩ := hk a q hrun hg b s h
  exact ⟨r, hr, fun t => Scanner.bind_eq_ok.mpr ⟨a, q.before t, hg t, hrest t⟩⟩

/-- A choice by a fixed condition is read in the same way in front of a tail if both branches
are. -/
theorem ite {c : Prop} [Decidable c] {f' : Scanner α} {g' : Tail → Scanner α}
    (hpos : c → LengthensAt p f g) (hneg : ¬ c → LengthensAt p f' g') :
    LengthensAt p (if c then f else f') fun t => if c then g t else g' t := by
  by_cases hc : c
  · simpa only [if_pos hc] using hpos hc
  · simpa only [if_neg hc] using hneg hc

end LengthensAt

namespace Scanner

variable {α β : Type} {p : Spot} {f : Scanner α} {g : Tail → Scanner α}

/-- A result that reads nothing is the same in front of a tail. -/
theorem lengthensAt_pure (p : Spot) (a : α) : LengthensAt p (pure a) fun _ => pure a := by
  intro b s h
  cases h
  exact ⟨p, rfl, fun _ => rfl⟩

/-- Where reading fails there is nothing to compare. -/
theorem lengthensAt_of_error {e : PatternError} (h : f p.scan = .error e) : LengthensAt p f g := by
  intro a s hok
  rw [h] at hok
  cases hok

/-- A failure leaves nothing to compare. -/
theorem lengthensAt_fail {e : PatternError} : LengthensAt p (fail e) g :=
  fun _ _ h => nomatch h

/-- What would follow a failure leaves nothing to compare. -/
theorem lengthensAt_fail_bind {e : PatternError} {k : α → Scanner β} {g : Tail → Scanner β} :
    LengthensAt p (fail e >>= k) g :=
  fun _ _ h => nomatch h

/-- The state may be looked at, with and without a tail. -/
theorem lengthensAt_get {k : Scan → Scanner β} {k' : Tail → Scan → Scanner β}
    (hk : LengthensAt p (k p.scan) fun t => k' t (p.before t)) :
    LengthensAt p (get >>= k) fun t => get >>= k' t :=
  hk

/-- The state may be set to one that has been reached. -/
theorem lengthensAt_set (p q : Spot) : LengthensAt p (set q.scan) fun t => set (q.before t) := by
  intro a s h
  cases h
  exact ⟨q, rfl, fun _ => rfl⟩

/-- To move through the pattern without a look at the tail. -/
theorem lengthensAt_move {move : List Char → List Char} (hnil : move [] = [])
    (hmove : ∀ t : Tail, move (p.scan.rest ++ t.chars) = move p.scan.rest ++ t.chars) :
    LengthensAt p (modify fun s => { s with rest := move s.rest })
      fun _ => modify fun s => { s with rest := move s.rest } := by
  intro a s h
  cases h
  obtain ⟨q, hq, hmoved⟩ := p.exists_moved hnil hmove
  exact ⟨q, hq, fun t => congrArg (fun s => Except.ok ((), s)) (hmoved t).symm⟩

/-- The mode and the names do not depend on what is behind the pattern. -/
theorem lengthensAt_modify {φ : Scan → Scan} (p : Spot)
    (hφ : ∀ s rest, φ { s with rest := rest } = { φ s with rest := rest }) :
    LengthensAt p (modify φ) fun _ => modify φ := by
  intro a s h
  cases h
  have hrest : (φ p.scan).rest = p.scan.rest := by
    rw [show φ p.scan = { φ p.scan with rest := p.scan.rest } from hφ p.scan p.scan.rest]
  obtain ⟨s, hidden, hused⟩ := p
  refine ⟨⟨φ s, hidden, fun h => hrest.trans (hused h)⟩, rfl, fun t => ?_⟩
  refine congrArg (fun s => Except.ok ((), s)) ?_
  cases hidden with
  | true => rfl
  | false => exact (hφ s (s.rest ++ t.chars)).trans (by simp only [Spot.before, hrest]; rfl)

/-- What comes next at the end of a pattern is no other character than a closing parenthesis. -/
theorem ne_of_end {c? : Option Char} (hc? : c? = none ∨ c? = some ')') (hc : c ≠ ')') :
    c? ≠ some c := by
  rcases hc? with rfl | rfl
  · exact (Option.some_ne_none c).symm
  · exact fun h => hc (Option.some.inj h).symm

/-- The next character does not depend on what is behind the pattern, as long as there is one. -/
theorem lengthensAt_peek {k : Option Char → Scanner β} {k' : Tail → Option Char → Scanner β}
    (hnext : ∀ c cs, p.scan.rest = c :: cs → LengthensAt p (k (some c)) fun t => k' t (some c))
    (hend : p.scan.rest = [] → ∀ c?, c? = none ∨ c? = some ')' →
      LengthensAt p (k none) fun t => k' t c?) :
    LengthensAt p (peek? >>= k) fun t => peek? >>= k' t := by
  have hpeek : ∀ (k : Option Char → Scanner β) (s : Scan), (peek? >>= k) s = k s.rest.head? s :=
    fun _ _ => rfl
  intro a s h
  rw [hpeek] at h
  simp only [hpeek]
  cases hrest : p.scan.rest with
  | cons c cs =>
    simp only [Spot.rest_before hrest, List.head?_cons]
    rw [hrest] at h
    exact hnext c cs hrest a s h
  | nil =>
    rw [hrest] at h
    cases hhidden : p.hidden with
    | true =>
      have hsame : ∀ t, p.before t = p.scan := fun t => by simp [Spot.before, hhidden]
      simp only [hsame, hrest]
      obtain ⟨q, hq, hrun⟩ := hend hrest none (.inl rfl) a s h
      exact ⟨q, hq, fun t => hsame t ▸ hrun t⟩
    | false =>
      obtain ⟨q, hq, hrun⟩ := hend hrest (some ')') (.inr rfl) a s h
      refine ⟨q, hq, fun t => ?_⟩
      have hhead : (p.before t).rest.head? = some ')' := by
        simp [Spot.before, hhidden, hrest, Tail.chars]
      rw [hhead]
      exact hrun t

/-- A character that has to exist does not depend on what is behind the pattern. -/
theorem lengthensAt_peekOr {e : PatternError} {k : Char → Scanner β} {k' : Tail → Char → Scanner β}
    (hnext : ∀ c cs, p.scan.rest = c :: cs → LengthensAt p (k c) fun t => k' t c) :
    LengthensAt p (peekOr e >>= k) fun t => peekOr e >>= k' t := by
  simp only [peekOr, bind_assoc]
  refine lengthensAt_peek (fun c cs hrest => ?_) fun _ _ _ => lengthensAt_fail_bind
  simpa using hnext c cs hrest

/-- With nothing left to read, the end has been reached. -/
theorem atEnd_bind_of_nil {k : Bool → Scanner β} {s : Scan} (hs : s.rest = []) :
    (atEnd >>= k) s = k true s := by
  have hatEnd : (atEnd >>= k) s = k s.rest.isEmpty s := rfl
  rw [hatEnd, hs, List.isEmpty_nil]

/-- Whether the pattern is used up matters only where it must not be. -/
theorem lengthensAt_atEnd {k : Bool → Scanner β} {k' : Tail → Bool → Scanner β}
    (hend : ∀ s, ∃ e, k true s = .error e)
    (hnext : p.scan.rest ≠ [] → LengthensAt p (k false) fun t => k' t false) :
    LengthensAt p (atEnd >>= k) fun t => atEnd >>= k' t := by
  have hatEnd : ∀ (k : Bool → Scanner β) (s : Scan), (atEnd >>= k) s = k s.rest.isEmpty s :=
    fun _ _ => rfl
  intro a s h
  rw [hatEnd] at h
  simp only [hatEnd]
  cases hrest : p.scan.rest with
  | nil =>
    obtain ⟨e, he⟩ := hend p.scan
    rw [hrest, List.isEmpty_nil, he] at h
    cases h
  | cons c cs =>
    simp only [Spot.rest_before hrest, List.isEmpty_cons]
    rw [hrest] at h
    exact hnext (by simp [hrest]) a s h

/-- To move past a character does not depend on what is behind the pattern. -/
theorem lengthensAt_advance {c : Char} {cs : List Char} (hrest : p.scan.rest = c :: cs) :
    LengthensAt p advance fun _ => advance := by
  intro a s h
  cases h
  refine ⟨.plain { p.scan with rest := p.scan.rest.tail }, rfl, fun t => ?_⟩
  have hbefore : { p.before t with rest := (p.before t).rest.tail } =
      (Spot.plain { p.scan with rest := p.scan.rest.tail }).before t := by
    rw [Spot.eq_plain hrest]
    simp [Spot.plain, hrest, Spot.before]
  exact congrArg (fun s => Except.ok ((), s)) hbefore

/-- A comment goes on up to the end of its line. -/
theorem afterSpace_comment {cs : List Char} (h : '\n' ∉ cs) : afterSpace true cs = [] := by
  induction cs with
  | nil => rfl
  | cons c cs ih =>
    rw [List.mem_cons, not_or] at h
    have hnext : (c != '\n') = true := bne_iff_ne.mpr (Ne.symm h.1)
    simp only [afterSpace, if_true, hnext]
    exact ih h.2

/-- A closing parenthesis is no blank and starts no comment, but a comment at the end of `cs` goes
on behind it. -/
theorem afterSpace_append (cs : List Char) (inComment : Bool) : ∃ hidden : Bool,
    (hidden = true → afterSpace inComment cs = []) ∧ ∀ t : Tail,
      afterSpace inComment (cs ++ t.chars) =
        if hidden then [] else afterSpace inComment cs ++ t.chars := by
  induction cs generalizing inComment with
  | nil =>
    refine ⟨inComment, fun _ => rfl, fun t => ?_⟩
    cases inComment with
    | false => simp [afterSpace, Tail.chars, show isBlank ')' = false from rfl]
    | true =>
      have hline : '\n' ∉ t.chars := by simpa [Tail.chars] using t.sameLine
      rw [List.nil_append, afterSpace_comment hline, if_pos rfl]
  | cons c cs ih =>
    simp only [List.cons_append, afterSpace]
    split
    · exact ih _
    split
    · exact ih _
    split
    · exact ih _
    · exact ⟨false, nofun, fun t => rfl⟩

/-- To skip blanks and comments depends on what is behind the pattern only in so far as a comment
may hide it. -/
theorem lengthensAt_skipSpace (p : Spot) : LengthensAt p skipSpace fun _ => skipSpace := by
  intro a s h
  obtain ⟨⟨rest, verbose, names⟩, hidden, hused⟩ := p
  cases verbose with
  | false =>
    cases h
    refine ⟨⟨⟨rest, false, names⟩, hidden, hused⟩, rfl, fun t => ?_⟩
    cases hidden with
    | true => rfl
    | false => rfl
  | true =>
    cases h
    cases hidden with
    | true =>
      obtain rfl : rest = [] := hused rfl
      exact ⟨⟨⟨[], true, names⟩, true, hused⟩, rfl, fun t => rfl⟩
    | false =>
      -- Here, and nowhere else, the end of the pattern becomes hidden.
      obtain ⟨hidden, hspace, happend⟩ := afterSpace_append rest false
      refine ⟨⟨⟨afterSpace false rest, true, names⟩, hidden, hspace⟩, rfl, fun t => ?_⟩
      have hrun : skipSpace ⟨rest ++ t.chars, true, names⟩ =
          .ok ((), ⟨afterSpace false (rest ++ t.chars), true, names⟩) := rfl
      refine hrun.trans ?_
      rw [happend]
      cases hidden with
      | true => simp [Spot.before, hspace]
      | false => rfl

/-- To move on by a character and the space behind it does not depend on more than that. -/
theorem lengthensAt_advanceSpace {c : Char} {cs : List Char} (hrest : p.scan.rest = c :: cs) :
    LengthensAt p advanceSpace fun _ => advanceSpace :=
  (lengthensAt_advance hrest).bind fun _ q _ _ => lengthensAt_skipSpace q

/-- Moving on to a further character ends in the same place in front of a tail. -/
theorem lengthensAt_advanceSpaceOr {c : Char} {cs : List Char} (hrest : p.scan.rest = c :: cs)
    (e : PatternError) : LengthensAt p (advanceSpaceOr e) fun _ => advanceSpaceOr e := by
  refine (lengthensAt_advanceSpace hrest).bind fun _ q _ _ => ?_
  exact lengthensAt_atEnd (fun _ => ⟨e, rfl⟩) fun _ => lengthensAt_pure q ()

/-- A text without a parenthesis is at the front with a tail just if it is without one. -/
theorem isPrefixOf_append {text : List Char} (htext : ')' ∉ text) (cs : List Char) (t : Tail) :
    text.isPrefixOf (cs ++ t.chars) = text.isPrefixOf cs := by
  induction text generalizing cs with
  | nil => simp
  | cons x text ih =>
    rw [List.mem_cons, not_or] at htext
    cases cs with
    | nil =>
      have hne : (x == ')') = false := beq_false_of_ne (Ne.symm htext.1)
      simp [Tail.chars, List.isPrefixOf, hne]
    | cons c cs => simp only [List.cons_append, List.isPrefixOf, ih htext.2]

/-- A text that is not found is not passed. -/
theorem eq_of_takeText_eq_false {text : String} {s s' : Scan}
    (h : takeText text s = .ok (false, s')) : s' = s := by
  have hrun : takeText text s = (if text.toList.isPrefixOf s.rest then do
      set { s with rest := s.rest.drop text.length }
      return true
    else return false : Scanner Bool) s := rfl
  rw [hrun] at h
  split at h
  · cases h
  · cases h
    rfl

/-- A text without parentheses is found only in what there is to read, and not in a tail. -/
theorem lengthensAt_takeText (p : Spot) {text : String} (htext : ')' ∉ text.toList) :
    LengthensAt p (takeText text) fun _ => takeText text := by
  have hbefore : ∀ t, text.toList.isPrefixOf (p.before t).rest =
      text.toList.isPrefixOf p.scan.rest := by
    intro t
    unfold Spot.before
    split
    · rfl
    · exact isPrefixOf_append htext _ t
  refine lengthensAt_get ?_
  simp only [hbefore]
  refine LengthensAt.ite (fun hprefix => ?_) fun _ => lengthensAt_pure p false
  have hlength : text.length ≤ p.scan.rest.length := by
    rw [← String.length_toList]
    exact (List.isPrefixOf_iff_prefix.mp hprefix).length_le
  obtain ⟨q, hq, hmoved⟩ := p.exists_moved (List.drop_nil (i := text.length)) fun t =>
    List.drop_append_of_le_length hlength
  simp only [← hq, ← hmoved]
  exact (lengthensAt_set p q).bind fun _ r _ _ => lengthensAt_pure r true

/-- The number of steps allowed grows with the pattern. -/
theorem lengthensAt_budget {k : Nat → Scanner β} {k' : Tail → Nat → Scanner β}
    (hk : LengthensAt p (k (p.scan.rest.length + 1))
      fun t => k' t ((p.before t).rest.length + 1)) :
    LengthensAt p (budget >>= k) fun t => budget >>= k' t :=
  hk

/-- An amount of fuel that is greater than another one is a successor. -/
theorem exists_eq_succ {n m : Tail → Nat} (h : ∀ t, n t < m t) :
    ∃ l : Tail → Nat, m = fun t => l t + 1 :=
  ⟨fun t => m t - 1, funext fun t => (Nat.sub_add_cancel (Nat.zero_lt_of_lt (h t))).symm⟩

/-- Behind space there is no more to read than in front of it. -/
theorem length_afterSpace_le (inComment : Bool) (cs : List Char) :
    (afterSpace inComment cs).length ≤ cs.length := by
  induction cs generalizing inComment with
  | nil => exact Nat.le_refl _
  | cons c cs ih =>
    simp only [afterSpace]
    split
    · exact Nat.le_succ_of_le (ih _)
    split
    · exact Nat.le_succ_of_le (ih _)
    split
    · exact Nat.le_succ_of_le (ih _)
    · exact Nat.le_refl _

/-- Moving on leaves less to read. -/
theorem length_of_advanceSpace {s s' : Scan} {c : Char} {cs : List Char} (hrest : s.rest = c :: cs)
    (h : advanceSpace s = .ok ((), s')) : s'.rest.length < s.rest.length := by
  obtain ⟨rest, verbose, names⟩ := s
  cases hrest
  cases verbose with
  | false =>
    cases h
    exact Nat.lt_succ_self _
  | true =>
    cases h
    exact Nat.lt_succ_of_le (length_afterSpace_le false cs)

/-- Characters are taken as long as there are any and they satisfy the test. A tail makes no
difference if a closing parenthesis does not satisfy it, or if the end must not be reached. -/
theorem lengthensAt_takeSpaced {test : Char → Bool} {fuel : Nat} {fuel' : Tail → Nat}
    {k : List Char → Scanner β} {k' : Tail → List Char → Scanner β}
    (hfuel : p.scan.rest.length < fuel) (hfuel' : ∀ t, (p.before t).rest.length < fuel' t)
    (hstop : test ')' = false ∨ ∀ cs s, s.rest = [] → ∃ e, k cs s = .error e)
    (hk : ∀ cs q, LengthensAt q (k cs) fun t => k' t cs) :
    LengthensAt p (takeSpaced test fuel >>= k) fun t => takeSpaced test (fuel' t) >>= k' t := by
  induction fuel generalizing p fuel' k k' with
  | zero => omega
  | succ fuel ih =>
    obtain ⟨m, rfl⟩ := exists_eq_succ hfuel'
    simp only [takeSpaced, bind_assoc]
    refine lengthensAt_peek (fun c cs hrest => ?_) fun hrest c? hc? => ?_
    · dsimp only
      by_cases htest : test c = true
      · simp only [htest, if_true, bind_assoc, pure_bind]
        refine (lengthensAt_advanceSpace hrest).bind fun _ q hq hq' => ?_
        have hlt := length_of_advanceSpace hrest hq
        refine ih (by omega) (fun t => ?_) ?_ fun cs q => hk (c :: cs) q
        · have hlt' := length_of_advanceSpace (Spot.rest_before hrest) (hq' t)
          exact Nat.lt_of_lt_of_le hlt' (Nat.le_of_lt_succ (hfuel' t))
        · exact hstop.imp_right fun herror cs s hs => herror (c :: cs) s hs
      · simpa [htest] using hk [] p
    · dsimp only
      rw [pure_bind]
      rcases hstop with hclosing | herror
      · rcases hc? with rfl | rfl
        · simpa using hk [] p
        · simpa [hclosing] using hk [] p
      · obtain ⟨e, he⟩ := herror [] p.scan hrest
        exact lengthensAt_of_error he

/-- Discarding a result is going on without it. -/
theorem discard_eq (f : Scanner α) : discard f = f >>= fun _ => pure () := rfl

/-- Skipped characters are taken all the same. -/
theorem lengthensAt_discard (hf : LengthensAt p f g) :
    LengthensAt p (discard f) fun t => discard (g t) := by
  simp only [discard_eq]
  exact hf.bind fun _ q _ _ => lengthensAt_pure q ()

/-- To take characters and nothing else. -/
theorem lengthensAt_taken {test : Char → Bool} (hclosing : test ')' = false) (p : Spot) :
    LengthensAt p (takeSpaced test (p.scan.rest.length + 1))
      fun t => takeSpaced test ((p.before t).rest.length + 1) := by
  have h := lengthensAt_takeSpaced (Nat.lt_succ_self p.scan.rest.length)
    (fun t => Nat.lt_succ_self (p.before t).rest.length) (.inl hclosing) fun cs q =>
      lengthensAt_pure q cs
  simpa only [bind_pure] using h

/-- A decimal number is read in the same way in front of a tail. -/
theorem lengthensAt_decimal (p : Spot) : LengthensAt p decimal fun _ => decimal := by
  have hclosing : isBlank ')' = false := rfl
  have hblank : ∀ (cs : List Char) (t : Tail),
      (cs ++ t.chars).dropWhile isBlank = cs.dropWhile isBlank ++ t.chars := by
    intro cs t
    induction cs with
    | nil => simp [Tail.chars, hclosing]
    | cons c cs ih =>
      simp only [List.cons_append, List.dropWhile_cons, ih]
      split
      · rfl
      · rfl
  refine (lengthensAt_move List.dropWhile_nil (hblank _)).bind fun _ q _ _ => ?_
  refine lengthensAt_budget ((lengthensAt_taken rfl q).bind fun digits q _ _ => ?_)
  refine lengthensAt_budget ((lengthensAt_discard (lengthensAt_taken rfl q)).bind fun _ q _ _ => ?_)
  refine .ite (fun _ => lengthensAt_fail_bind) fun _ => ?_
  exact .ite (fun _ => lengthensAt_pure q _) fun _ => lengthensAt_fail

/-- The character that some digits stand for does not depend on a tail. -/
theorem lengthensAt_scalarOf (p : Spot) (digits : List Char) :
    LengthensAt p (scalarOf digits) fun _ => scalarOf digits := by
  unfold scalarOf
  split
  · exact lengthensAt_pure p _
  · exact lengthensAt_fail

/-- A fixed number of hexadecimal digits is read in the same way in front of a tail. -/
theorem lengthensAt_hexDigits (p : Spot) (count : Nat) :
    LengthensAt p (hexDigits count) fun _ => hexDigits count := by
  induction count generalizing p with
  | zero => exact lengthensAt_pure p []
  | succ count ih =>
    refine lengthensAt_peekOr fun c cs hrest => ?_
    refine .ite (fun _ => lengthensAt_fail_bind) fun _ => ?_
    refine (lengthensAt_advanceSpace hrest).bind fun _ q _ _ => ?_
    exact (ih q).bind fun digits q _ _ => lengthensAt_pure q (c :: digits)

/-- Hexadecimal digits in braces, the opening one being next. -/
theorem lengthensAt_hexBraced {c : Char} {cs : List Char} (hrest : p.scan.rest = c :: cs) :
    LengthensAt p hexBraced fun _ => hexBraced := by
  refine (lengthensAt_advanceSpace hrest).bind fun _ q _ _ => ?_
  refine lengthensAt_budget ((lengthensAt_taken rfl q).bind fun digits q _ _ => ?_)
  refine lengthensAt_peekOr fun c cs hrest => ?_
  refine .ite (fun _ => lengthensAt_fail_bind) fun _ => ?_
  refine (lengthensAt_advanceSpace hrest).bind fun _ q _ _ => ?_
  exact .ite (fun _ => lengthensAt_fail_bind) fun _ => lengthensAt_pure q digits

/-- A hexadecimal escape is read in the same way in front of a tail. -/
theorem lengthensAt_hexEscape {c : Char} {cs : List Char} (hrest : p.scan.rest = c :: cs)
    (letter : Char) : LengthensAt p (hexEscape letter) fun _ => hexEscape letter := by
  refine (lengthensAt_advanceSpaceOr hrest _).bind fun _ q _ _ => ?_
  have hdigits : ∀ count, LengthensAt q
      (do return ⟨← scalarOf (← hexDigits count), letter = 'x'⟩ : Scanner Literal)
      fun _ => do return ⟨← scalarOf (← hexDigits count), letter = 'x'⟩ := by
    intro count
    refine (lengthensAt_hexDigits q count).bind fun digits q _ _ => ?_
    exact (lengthensAt_scalarOf q digits).bind fun c q _ _ => lengthensAt_pure q _
  refine lengthensAt_peek (fun c cs hrest => .ite (fun _ => ?_) fun _ => hdigits _)
    fun _ c? hc? => ?_
  · refine (lengthensAt_hexBraced hrest).bind fun digits q _ _ => ?_
    exact (lengthensAt_scalarOf q digits).bind fun c q _ _ => lengthensAt_pure q _
  · have hother : c? ≠ some '\x7b' := ne_of_end hc? (by decide)
    simpa only [hother, reduceCtorEq, if_false] using hdigits _

/-- The name of a Unicode property, the letter of the escape being next. -/
theorem lengthensAt_propertyQuery {c : Char} {cs : List Char} (hrest : p.scan.rest = c :: cs) :
    LengthensAt p propertyQuery fun _ => propertyQuery := by
  refine (lengthensAt_advanceSpaceOr hrest _).bind fun _ q _ _ => ?_
  refine lengthensAt_peekOr fun c cs hrest => ?_
  refine .ite (fun _ => ?_) fun _ => ?_
  · refine (lengthensAt_advanceSpace hrest).bind fun _ q _ _ => ?_
    refine lengthensAt_budget ?_
    refine lengthensAt_takeSpaced (Nat.lt_succ_self _) (fun t => Nat.lt_succ_self _) (.inr ?_)
      fun name q => ?_
    · intro name s hs
      exact ⟨.escapeUnexpectedEnd, atEnd_bind_of_nil hs⟩
    · refine lengthensAt_atEnd (fun _ => ⟨_, rfl⟩) fun hmore => ?_
      obtain ⟨c, cs, hrest⟩ := List.exists_cons_of_ne_nil hmore
      exact (lengthensAt_advance hrest).bind fun _ q _ _ => lengthensAt_pure q _
  · refine .ite (fun _ => lengthensAt_fail_bind) fun _ => ?_
    exact (lengthensAt_advanceSpace hrest).bind fun _ q _ _ => lengthensAt_pure q _

end Scanner

end Peg.Regex
