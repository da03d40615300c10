import Peg.Proofs.Regex.LengthenedParts

/-!
# Patterns inside a group

To read a pattern is to read parts until the pattern or the group around it ends. So a pattern that
can be read by itself is read in the same way in front of a closing parenthesis, and what remains to
be read behind its group is a counted repetition.
-/

namespace Peg.Regex

open Peg.Text

namespace Scanner

variable {α β : Type} {p : Spot} {c : Char} {cs : List Char}

/-- Read a part that starts with a given character, or what is between two branches. -/
def part (fuel : Nat) (branches parts : List Ast) (c : Char) : Scanner (List Ast × List Ast) := do
  match c with
  | '(' =>
    match ← opening with
    | .flags items =>
      modify fun s => { s with verbose := (flagState? .ignoreWhitespace items).getD s.verbose }
      return (branches, .flags items :: parts)
    | .group kind =>
      let outer := (← get).verbose
      let items := match kind with
        | .flags items => items
        | _ => []
      modify fun s => { s with verbose := (flagState? .ignoreWhitespace items).getD s.verbose }
      let body ← alternatives true fuel [] []
      modify fun s => { s with verbose := outer }
      return (branches, .group kind body :: parts)
  | '|' =>
    advance
    return (Ast.ofParts parts.reverse :: branches, [])
  | '[' => return (branches, (← bracketed) :: parts)
  | '?' =>
    let (body, before) ← operand parts
    advance
    return (branches, .repetition 0 (some 1) (← greed) body :: before)
  | '*' =>
    let (body, before) ← operand parts
    advance
    return (branches, .repetition 0 none (← greed) body :: before)
  | '+' =>
    let (body, before) ← operand parts
    advance
    return (branches, .repetition 1 none (← greed) body :: before)
  | '\x7b' =>
    let (body, before) ← operand parts
    return (branches, (← countedRepetition body) :: before)
  | c => return (branches, (← primitive c) :: parts)

/-- Read all parts up to the end or up to a closing parenthesis, which is left. -/
def allParts : Nat → List Ast → List Ast → Scanner (List Ast × List Ast)
  | 0, _, _ => fail .groupUnclosed
  | fuel + 1, branches, parts => do
    skipSpace
    match ← peek? with
    | none => return (branches, parts)
    | some c =>
      if c = ')' then return (branches, parts)
      else
        let (branches, parts) ← part fuel branches parts c
        allParts fuel branches parts

/-- Read the end of a pattern or of a group. -/
def finish (inside : Bool) (branches parts : List Ast) : Scanner Ast := do
  match ← peek? with
  | none => if inside then fail .groupUnclosed else return close branches parts
  | some _ =>
    if inside then
      advance
      return close branches parts
    else fail .groupUnopened

/-- Alternatives are read part by part, up to the end or to a closing parenthesis. -/
theorem alternatives_succ (inside : Bool) (fuel : Nat) (branches parts : List Ast) :
    alternatives inside (fuel + 1) branches parts = (do
      skipSpace
      match ← peek? with
      | none => if inside then fail .groupUnclosed else return close branches parts
      | some c =>
        if c = ')' then
          if inside then
            advance
            return close branches parts
          else fail .groupUnopened
        else
          let (branches, parts) ← part fuel branches parts c
          alternatives inside fuel branches parts) := by
  rw [alternatives]
  congr 1
  funext _
  congr 1
  funext c?
  cases c? with
  | none => rfl
  | some c =>
    unfold part
    split
    next h => cases h
    next h =>
      cases h
      simp only [Char.reduceEq, if_false, bind_assoc]
      congr 1
      funext opened
      cases opened with
      | flags items => simp only [bind_assoc, pure_bind]
      | group kind =>
        cases kind with
        | capture => simp only [bind_assoc, pure_bind]
        | named name => simp only [bind_assoc, pure_bind]
        | flags items => simp only [bind_assoc, pure_bind]
    next h =>
      cases h
      rfl
    next h =>
      cases h
      simp only [Char.reduceEq, if_false, bind_assoc, pure_bind]
    next h =>
      cases h
      simp only [Char.reduceEq, if_false, bind_assoc, pure_bind]
    next h =>
      cases h
      simp only [Char.reduceEq, if_false, bind_assoc, pure_bind]
    next h =>
      cases h
      simp only [Char.reduceEq, if_false, bind_assoc, pure_bind]
    next h =>
      cases h
      simp only [Char.reduceEq, if_false, bind_assoc, pure_bind]
    next h =>
      cases h
      simp only [Char.reduceEq, if_false, bind_assoc, pure_bind]
    next hgroup hclosing hbranch hclass hoptional hstar hplus hcount h =>
      cases h
      dsimp only
      rw [if_neg hclosing]
      split
      · exact absurd rfl hgroup
      · exact absurd rfl hbranch
      · exact absurd rfl hclass
      · exact absurd rfl hoptional
      · exact absurd rfl hstar
      · exact absurd rfl hplus
      · exact absurd rfl hcount
      · simp only [bind_assoc, pure_bind]

/-- To read a pattern or a group is to read all parts and then the end. -/
theorem alternatives_eq (inside : Bool) (fuel : Nat) (branches parts : List Ast) :
    alternatives inside fuel branches parts =
      allParts fuel branches parts >>= fun r => finish inside r.1 r.2 := by
  induction fuel generalizing branches parts with
  | zero => rfl
  | succ fuel ih =>
    rw [alternatives_succ, allParts]
    simp only [bind_assoc]
    congr 1
    funext _ s
    have hpeek : ∀ (k : Option Char → Scanner Ast), (peek? >>= k) s = k s.rest.head? s :=
      fun _ => rfl
    rw [hpeek, hpeek]
    cases hhead : s.rest.head? with
    | none =>
      rw [pure_bind, finish, hpeek, hhead]
    | some c =>
      dsimp only
      split
      · rw [pure_bind, finish, hpeek, hhead]
      · simp only [bind_assoc, ih]

/-- Inside of a group the closing parenthesis is found in the same place in front of a tail. -/
theorem lengthensAt_finish (p : Spot) (branches parts : List Ast) :
    LengthensAt p (finish true branches parts) fun _ => finish true branches parts := by
  refine lengthensAt_peek (fun c cs hrest => ?_) fun _ c? _ => ?_
  · exact (lengthensAt_advance hrest).bind fun _ q _ _ => lengthensAt_pure q _
  · exact lengthensAt_fail

/-- To look for an operand is to read nothing. -/
theorem eq_of_operand {parts : List Ast} {s s' : Scan} {o : Ast × List Ast}
    (h : operand parts s = .ok (o, s')) : s' = s := by
  unfold operand at h
  split at h
  · cases h
  · split at h
    · cases h
      rfl
    · cases h

/-- A repetition is read in the same way in front of a tail. -/
theorem lengthensAt_repetition (hrest : p.scan.rest = c :: cs) (min : Nat) (max : Option Nat)
    (branches parts : List Ast) :
    LengthensAt p (do
        let (body, before) ← operand parts
        advance
        return (branches, .repetition min max (← greed) body :: before))
      fun _ => do
        let (body, before) ← operand parts
        advance
        return (branches, .repetition min max (← greed) body :: before) := by
  refine (lengthensAt_operand p parts).bind fun o q hq _ => ?_
  rw [← eq_of_operand hq] at hrest
  refine (lengthensAt_advance hrest).bind fun _ q _ _ => ?_
  exact (lengthensAt_greed q).bind fun greedy q _ _ => lengthensAt_pure q _

/-- A part is read in the same way in front of a tail if what is in a group is. -/
theorem lengthensAt_part (hrest : p.scan.rest = c :: cs) {fuel : Nat} {fuel' : Tail → Nat}
    (hgroup : ∀ q, LengthensAt q (alternatives true fuel [] [])
      fun t => alternatives true (fuel' t) [] []) (branches parts : List Ast) :
    LengthensAt p (part fuel branches parts c) fun t => part (fuel' t) branches parts c := by
  unfold part
  split
  · refine (lengthensAt_opening hrest).bind fun opened q _ _ => ?_
    cases opened with
    | flags items =>
      exact (lengthensAt_modify q fun _ _ => rfl).bind fun _ q _ _ => lengthensAt_pure q _
    | group kind =>
      refine lengthensAt_get ?_
      simp only [Spot.verbose_before]
      refine (lengthensAt_modify q fun _ _ => rfl).bind fun _ q _ _ => ?_
      refine (hgroup q).bind fun body q _ _ => ?_
      exact (lengthensAt_modify q fun _ _ => rfl).bind fun _ q _ _ => lengthensAt_pure q _
  · exact (lengthensAt_advance hrest).bind fun _ q _ _ => lengthensAt_pure q _
  · exact (lengthensAt_bracketed hrest).bind fun set q _ _ => lengthensAt_pure q _
  · exact lengthensAt_repetition hrest 0 (some 1) branches parts
  · exact lengthensAt_repetition hrest 0 none branches parts
  · exact lengthensAt_repetition hrest 1 none branches parts
  · refine (lengthensAt_operand p parts).bind fun o q hq _ => ?_
    rw [← eq_of_operand hq] at hrest
    exact (lengthensAt_countedRepetition hrest o.1).bind fun part q _ _ => lengthensAt_pure q _
  · exact (lengthensAt_primitive hrest _).bind fun part q _ _ => lengthensAt_pure q _

/-- All parts of a pattern are read as before when there is a tail behind it. -/
theorem lengthensAt_allParts (p : Spot) {fuel : Nat} {fuel' : Tail → Nat}
    (hfuel : ∀ t, fuel ≤ fuel' t) (branches parts : List Ast) :
    LengthensAt p (allParts fuel branches parts) fun t => allParts (fuel' t) branches parts := by
  induction fuel generalizing p fuel' branches parts with
  | zero => exact lengthensAt_fail
  | succ fuel ih =>
    obtain ⟨m, rfl⟩ := exists_eq_succ hfuel
    have hm : ∀ t, fuel ≤ m t := fun t => Nat.le_of_succ_le_succ (hfuel t)
    -- The parts of a group are read with the same fuel as what is behind the group.
    have hgroup : ∀ q, LengthensAt q (alternatives true fuel [] [])
        fun t => alternatives true (m t) [] [] := by
      intro q
      simp only [alternatives_eq]
      exact (ih q hm [] []).bind fun r q _ _ => lengthensAt_finish q r.1 r.2
    refine (lengthensAt_skipSpace p).bind fun _ q _ _ => ?_
    refine lengthensAt_peek (fun c cs hrest => .ite (fun _ => lengthensAt_pure q _) fun _ => ?_)
      fun _ c? hc? => ?_
    · exact (lengthensAt_part hrest hgroup branches parts).bind fun r q _ _ => ih q hm r.1 r.2
    · rcases hc? with rfl | rfl
      · exact lengthensAt_pure q _
      · exact lengthensAt_pure q _

/-- At the end a group is still open, and a pattern is complete. -/
theorem finish_of_nil (inside : Bool) (branches parts : List Ast) {s : Scan} (hs : s.rest = []) :
    finish inside branches parts s =
      if inside then .error .groupUnclosed else .ok (close branches parts, s) := by
  obtain ⟨rest, verbose, names⟩ := s
  cases hs
  cases inside with
  | false => rfl
  | true => rfl

/-- At a parenthesis a group is complete, and a pattern has one too many. -/
theorem finish_of_cons (inside : Bool) (branches parts : List Ast) {s : Scan}
    (hs : s.rest = c :: cs) : finish inside branches parts s =
      if inside then .ok (close branches parts, { s with rest := cs })
      else .error .groupUnopened := by
  obtain ⟨rest, verbose, names⟩ := s
  cases hs
  cases inside with
  | false => rfl
  | true => rfl

/-- A pattern that can be read is read in the same way in front of a tail, be it inside a group that
the tail closes or not, unless the tail is hidden by a comment. -/
theorem alternatives_before_tail {fuel : Nat} {fuel' : Tail → Nat} (hfuel : ∀ t, fuel ≤ fuel' t)
    {cs : List Char} {ast : Ast} {s : Scan}
    (h : alternatives false fuel [] [] ⟨cs, false, []⟩ = .ok (ast, s)) :
    ∃ hidden : Bool, ∀ (t : Tail) (inside : Bool),
      alternatives inside (fuel' t) [] [] ⟨cs ++ t.chars, false, []⟩ =
        match hidden, inside with
        | true, true => .error .groupUnclosed
        | true, false => .ok (ast, s)
        | false, true => .ok (ast, { s with rest := t.after })
        | false, false => .error .groupUnopened := by
  rw [alternatives_eq] at h
  obtain ⟨⟨branches, parts⟩, s₁, hparts, hfinish⟩ := bind_eq_ok.mp h
  dsimp only at hfinish
  have hused : s₁.rest = [] := by
    cases hrest : s₁.rest with
    | nil => rfl
    | cons c rest =>
      rw [finish_of_cons false branches parts hrest] at hfinish
      cases hfinish
  rw [finish_of_nil false branches parts hused] at hfinish
  cases hfinish
  obtain ⟨q, rfl, hrun⟩ := lengthensAt_allParts (.plain ⟨cs, false, []⟩) hfuel [] [] _ _ hparts
  have hrun' : ∀ t inside, alternatives inside (fuel' t) [] [] ⟨cs ++ t.chars, false, []⟩ =
      finish inside branches parts (q.before t) := by
    intro t inside
    have hparts' : allParts (fuel' t) [] [] ⟨cs ++ t.chars, false, []⟩ =
        .ok ((branches, parts), q.before t) := hrun t
    rw [alternatives_eq]
    simp only [bind, StateT.bind, hparts', Except.bind]
  refine ⟨q.hidden, fun t inside => (hrun' t inside).trans ?_⟩
  cases hhidden : q.hidden with
  | true =>
    have hbefore : q.before t = q.scan := by simp [Spot.before, hhidden]
    rw [hbefore, finish_of_nil inside branches parts hused]
    cases inside with
    | false => rfl
    | true => rfl
  | false =>
    have hbefore : q.before t = { q.scan with rest := ')' :: t.after } := by
      simp [Spot.before, hhidden, hused, Tail.chars]
    rw [hbefore, finish_of_cons inside branches parts rfl]
    cases inside with
    | false => rfl
    | true => rfl

variable {names : List String}

/-- All characters that pass the test are taken if there is enough fuel. -/
theorem takeSpaced_all {test : Char → Bool} {taken : List Char}
    (htaken : ∀ c ∈ taken, test c = true) (hc : test c = false) {fuel : Nat}
    (hfuel : taken.length < fuel) :
    takeSpaced test fuel ⟨taken ++ c :: cs, false, names⟩ =
      .ok (taken, ⟨c :: cs, false, names⟩) := by
  induction taken generalizing fuel with
  | nil =>
    obtain ⟨fuel, rfl⟩ := Nat.exists_eq_succ_of_ne_zero (Nat.ne_of_gt hfuel)
    refine bind_eq_ok.mpr ⟨some c, _, rfl, ?_⟩
    simp only [hc]
    rfl
  | cons d taken ih =>
    obtain ⟨fuel, rfl⟩ := Nat.exists_eq_succ_of_ne_zero (Nat.ne_of_gt (Nat.zero_lt_of_lt hfuel))
    obtain ⟨hd, htaken⟩ := List.forall_mem_cons.mp htaken
    refine bind_eq_ok.mpr ⟨some d, _, rfl, ?_⟩
    simp only [hd, if_true]
    refine bind_eq_ok.mpr ⟨(), _, rfl, ?_⟩
    exact bind_eq_ok.mpr ⟨taken, _, ih htaken (Nat.lt_of_succ_lt_succ hfuel), rfl⟩

/-- A digit is no blank. -/
theorem isBlank_of_isDigit (hc : c.isDigit = true) : isBlank c = false := by
  have hrange : 48 ≤ c.toNat ∧ c.toNat ≤ 57 := by
    simpa [Char.isDigit, UInt32.le_iff_toNat_le] using hc
  simp [isBlank, blankRanges, CodeRange.anyContains]
  omega

/-- A number is read from its digits. -/
theorem decimal_toDigits {n : Nat} (hn : n < UInt32.size) (hc : c.isDigit = false)
    (hblank : isBlank c = false) :
    decimal ⟨Nat.toDigits 10 n ++ c :: cs, false, names⟩ = .ok (n, ⟨c :: cs, false, names⟩) := by
  have hdigits : ∀ d ∈ Nat.toDigits 10 n, d.isDigit = true := fun d hd =>
    Nat.isDigit_of_mem_toDigits (by decide) (by decide) hd
  have hne : (Nat.toDigits 10 n).isEmpty = false := by
    rw [List.isEmpty_eq_false_iff]
    exact Nat.toDigits_ne_nil
  have hvalue : (Nat.toDigits 10 n).foldl (fun n d => 10 * n + (d.toNat - '0'.toNat)) 0 = n :=
    Nat.ofDigitChars_toDigits (by decide) (by decide)
  have hstart : (Nat.toDigits 10 n ++ c :: cs).dropWhile isBlank =
      Nat.toDigits 10 n ++ c :: cs := by
    obtain ⟨d, digits, hcons⟩ := List.exists_cons_of_ne_nil (Nat.toDigits_ne_nil (b := 10) (n := n))
    have hd := isBlank_of_isDigit (hdigits d (by simp [hcons]))
    simp [hcons, hd]
  have hlength : (Nat.toDigits 10 n).length < (Nat.toDigits 10 n ++ c :: cs).length + 1 := by
    simp only [List.length_append]
    omega
  refine bind_eq_ok.mpr ⟨(), ⟨Nat.toDigits 10 n ++ c :: cs, false, names⟩, ?_, ?_⟩
  · exact congrArg (fun rest => Except.ok ((), (⟨rest, false, names⟩ : Scan))) hstart
  refine bind_eq_ok.mpr ⟨_, _, rfl, ?_⟩
  refine bind_eq_ok.mpr ⟨_, _, takeSpaced_all hdigits hc hlength, ?_⟩
  refine bind_eq_ok.mpr ⟨_, _, rfl, ?_⟩
  refine bind_eq_ok.mpr ⟨(), ⟨c :: cs, false, names⟩, ?_, ?_⟩
  · have hnone : takeSpaced isBlank ((c :: cs).length + 1) ⟨[] ++ c :: cs, false, names⟩ =
        .ok ([], ⟨c :: cs, false, names⟩) :=
      takeSpaced_all (List.forall_mem_nil _) hblank (Nat.succ_pos _)
    rw [discard_eq]
    exact bind_eq_ok.mpr ⟨[], _, hnone, rfl⟩
  · simp only [hne, hvalue, Bool.false_eq_true, if_false]
    rw [if_pos hn]
    rfl

/-- A counted repetition with one number. -/
theorem countedRepetition_toDigits (body : Ast) {n : Nat} (hn : n < UInt32.size) :
    countedRepetition body ⟨'\x7b' :: (Nat.toDigits 10 n ++ ['\x7d']), false, names⟩ =
      .ok (.repetition n (some n) true body, ⟨[], false, names⟩) := by
  have hcount : count ⟨Nat.toDigits 10 n ++ ['\x7d'], false, names⟩ =
      .ok (n, ⟨['\x7d'], false, names⟩) := by
    unfold count
    rw [decimal_toDigits hn rfl rfl]
  obtain ⟨d, digits, hcons⟩ := List.exists_cons_of_ne_nil (Nat.toDigits_ne_nil (b := 10) (n := n))
  rw [countedRepetition_eq]
  refine bind_eq_ok.mpr ⟨(), ⟨Nat.toDigits 10 n ++ ['\x7d'], false, names⟩, ?_, ?_⟩
  · rw [hcons]
    rfl
  refine bind_eq_ok.mpr ⟨_, _, rfl, ?_⟩
  simp only [hcount]
  refine bind_eq_ok.mpr ⟨(), _, rfl, ?_⟩
  refine bind_eq_ok.mpr ⟨(n, some n), ⟨['\x7d'], false, names⟩, rfl, ?_⟩
  refine bind_eq_ok.mpr ⟨some '\x7d', _, rfl, ?_⟩
  refine bind_eq_ok.mpr ⟨(), ⟨[], false, names⟩, rfl, ?_⟩
  refine bind_eq_ok.mpr ⟨true, ⟨[], false, names⟩, rfl, ?_⟩
  simp only [Option.map_some, Nat.lt_irrefl, decide_false, Option.some.injEq, Bool.false_eq_true,
    if_false]
  rfl

end Scanner

end Peg.Regex
