import Peg.Parse.PatternTable
import Peg.Proofs.Except
import Peg.Proofs.Regex.InsideGroup

/-!
# Patterns that can be repeated

A pattern that is applied several times in a row is compiled as the body of a group with a counted
repetition behind it. That is possible unless the end of the pattern lies in a comment, which would
hide the end of the group, or the pattern is nested so deeply that the group and the repetition
around it are too much.
-/

namespace Peg.Regex

open Scanner

/-- Whether a pattern ends in a comment: a closing parenthesis behind it would not be seen. -/
def endsInComment (pattern : String) : Bool :=
  match parse (pattern ++ ")") with
  | .ok _ => true
  | .error _ => false

/-- Whether a group around the pattern can be repeated a number of times. -/
def repeatable (pattern : String) : Bool :=
  match parse pattern with
  | .ok ast => ast.depth + 2 ≤ nestLimit && !endsInComment pattern
  | .error _ => false

/-- The end of a group. -/
def Tail.closing : Tail :=
  ⟨[], List.not_mem_nil, List.not_mem_nil⟩

/-- A count in braces holds nothing but its braces and digits. -/
theorem not_mem_counted {c : Char} (hopen : c ≠ '\x7b') (hclose : c ≠ '\x7d')
    (hdigit : c.isDigit = false) (times : Nat) :
    c ∉ '\x7b' :: (Nat.toDigits 10 times ++ ['\x7d']) := by
  intro hc
  rw [List.mem_cons, List.mem_append, List.mem_singleton] at hc
  rcases hc with heq | hc | heq
  · exact hopen heq
  · rw [Nat.isDigit_of_mem_toDigits (by decide) (by decide) hc] at hdigit
    cases hdigit
  · exact hclose heq

/-- The end of a group that is repeated a number of times. -/
def Tail.counted (times : Nat) : Tail where
  after := '\x7b' :: (Nat.toDigits 10 times ++ ['\x7d'])
  sameLine := not_mem_counted (by decide) (by decide) rfl times
  colonless := not_mem_counted (by decide) (by decide) rfl times

/-- A pattern is read by reading all of its characters. -/
theorem parse_eq (pattern : String) : parse pattern =
    match alternatives false (pattern.toList.length + 1) [] [] ⟨pattern.toList, false, []⟩ with
    | .ok (ast, _) =>
      if nestLimit < ast.depth then .error (.nestLimitExceeded nestLimit) else .ok ast
    | .error e => .error e := by
  unfold parse
  simp only [StateT.run, bind, Except.bind]
  split
  next h => simp only [h]
  next h =>
    simp only [h]
    rfl

/-- A repeated pattern is written as a group, the pattern and what counts its repetitions. -/
theorem toList_repeatedSource {times : Nat} (htimes : times ≠ 1) (pattern : String) :
    (PatternTable.repeatedSource pattern times).toList =
      '(' :: '?' :: ':' :: (pattern.toList ++ (Tail.counted times).chars) := by
  have hparts : PatternTable.repeatedSource pattern times =
      "(?:" ++ pattern ++ ")\x7b" ++ times.repr ++ "\x7d" := if_neg htimes
  rw [hparts]
  simp [String.toList_append, Nat.toList_repr, Tail.chars, Tail.counted]

/-- What is read where a pattern starts with a group without flags. -/
theorem alternatives_plainGroup (fuel : Nat) (cs : List Char) :
    alternatives false (fuel + 1) [] [] ⟨'(' :: '?' :: ':' :: cs, false, []⟩ =
      (alternatives true fuel [] [] >>= fun body => do
        modify fun s => { s with verbose := false }
        alternatives false fuel [] [.group (.flags []) body]) ⟨cs, false, []⟩ := by
  have hpart : part fuel [] [] '(' ⟨'(' :: '?' :: ':' :: cs, false, []⟩ =
      (alternatives true fuel [] [] >>= fun body => do
        modify fun s => { s with verbose := false }
        return ([], [.group (.flags []) body])) ⟨cs, false, []⟩ := rfl
  calc
    _ = (part fuel [] [] '(' >>= fun r => alternatives false fuel r.1 r.2)
          ⟨'(' :: '?' :: ':' :: cs, false, []⟩ := by
      rw [alternatives_succ]
      rfl
    _ = _ := by
      simp only [bind, StateT.bind, hpart]
      cases alternatives true fuel [] [] ⟨cs, false, []⟩ with
      | error e => rfl
      | ok r => rfl

/-- What is read where a counted repetition is all that follows a part. -/
theorem alternatives_counted (fuel : Nat) {part : Ast} (hpart : isRepeatable part = true)
    {times : Nat} (htimes : times < UInt32.size) (names : List String) :
    alternatives false (fuel + 2) [] [part]
        ⟨'\x7b' :: (Nat.toDigits 10 times ++ ['\x7d']), false, names⟩ =
      .ok (.repetition times (some times) true part, ⟨[], false, names⟩) := by
  rw [alternatives_succ]
  refine bind_eq_ok.mpr ⟨(), _, rfl, ?_⟩
  refine bind_eq_ok.mpr ⟨some '\x7b', _, rfl, ?_⟩
  refine bind_eq_ok.mpr ⟨([], [.repetition times (some times) true part]), ⟨[], false, names⟩,
    ?_, ?_⟩
  · have hoperand : operand [part] = pure (part, []) := if_pos hpart
    refine bind_eq_ok.mpr ⟨(part, []), _, congrFun hoperand _, ?_⟩
    exact bind_eq_ok.mpr ⟨_, _, countedRepetition_toDigits part htimes, rfl⟩
  · dsimp only
    rw [alternatives_succ]
    rfl

/-- A pattern with a closing parenthesis behind it can be read if the parenthesis is hidden. If it
is not, the pattern can be repeated. -/
theorem alternatives_repeated {cs : List Char} {ast : Ast} {s : Scan}
    (h : alternatives false (cs.length + 1) [] [] ⟨cs, false, []⟩ = .ok (ast, s)) {times : Nat}
    (htimes : times < UInt32.size) :
    ∃ hidden : Bool,
      (alternatives false (cs.length + 2) [] [] ⟨cs ++ Tail.closing.chars, false, []⟩ =
        if hidden then .ok (ast, s) else .error .groupUnopened) ∧
      alternatives false (cs.length + (Nat.toDigits 10 times).length + 7) [] []
          ⟨'(' :: '?' :: ':' :: (cs ++ (Tail.counted times).chars), false, []⟩ =
        if hidden then .error .groupUnclosed
        else .ok (.repetition times (some times) true (.group (.flags []) ast),
          ⟨[], false, s.names⟩) := by
  -- One run in front of either tail, so that both agree on whether the end is hidden.
  let budget (t : Tail) : Nat :=
    if t.after = [] then cs.length + 2 else cs.length + (Nat.toDigits 10 times).length + 6
  have hbudget : ∀ t, cs.length + 1 ≤ budget t := by
    intro t
    unfold budget
    split <;> omega
  obtain ⟨hidden, hrun⟩ := alternatives_before_tail hbudget h
  refine ⟨hidden, (hrun .closing false).trans ?_, ?_⟩
  · cases hidden with
    | false => rfl
    | true => rfl
  · have hbody : alternatives true (cs.length + (Nat.toDigits 10 times).length + 6) [] []
        ⟨cs ++ (Tail.counted times).chars, false, []⟩ = _ := hrun (.counted times) true
    rw [alternatives_plainGroup]
    cases hidden with
    | true => exact bind_of_error hbody _
    | false =>
      refine bind_eq_ok.mpr ⟨ast, _, hbody, ?_⟩
      exact bind_eq_ok.mpr ⟨(), _, rfl, alternatives_counted _ rfl htimes s.names⟩

/-- What can be read can be read to its end and is not nested too deeply. -/
theorem exists_of_parse_eq_ok {pattern : String} {ast : Ast} (h : parse pattern = .ok ast) :
    ast.depth ≤ nestLimit ∧ ∃ s, alternatives false (pattern.toList.length + 1) [] []
      ⟨pattern.toList, false, []⟩ = .ok (ast, s) := by
  rw [parse_eq] at h
  split at h
  next found s hrun =>
    split at h
    · cases h
    next hdepth =>
      cases h
      exact ⟨Nat.le_of_not_lt hdepth, s, hrun⟩
  · cases h

/-- A group around a pattern with a counted repetition behind it. The repetition and the group add
two to the depth of the pattern. -/
theorem parse_repeatedSource {pattern : String} {ast : Ast} (h : parse pattern = .ok ast)
    {times : Nat} (hone : times ≠ 1) (htimes : times < UInt32.size) :
    parse (PatternTable.repeatedSource pattern times) =
      if endsInComment pattern then .error .groupUnclosed
      else if nestLimit < ast.depth + 2 then .error (.nestLimitExceeded nestLimit)
      else .ok (.repetition times (some times) true (.group (.flags []) ast)) := by
  obtain ⟨hdepth, s, hrun⟩ := exists_of_parse_eq_ok h
  obtain ⟨hidden, hclosing, hrepeated⟩ := alternatives_repeated hrun htimes
  have hends : endsInComment pattern = hidden := by
    have hlist : (pattern ++ ")").toList = pattern.toList ++ Tail.closing.chars :=
      String.toList_append
    have hlength : Tail.closing.chars.length = 1 := rfl
    rw [endsInComment, parse_eq, hlist, List.length_append, hlength, hclosing]
    cases hidden with
    | false => rfl
    | true => simp [Nat.not_lt.mpr hdepth]
  have hlength : (PatternTable.repeatedSource pattern times).toList.length + 1 =
      pattern.toList.length + (Nat.toDigits 10 times).length + 7 := by
    rw [toList_repeatedSource hone]
    simp only [Tail.chars, Tail.counted, List.length_cons, List.length_append, List.length_nil]
    omega
  rw [parse_eq, hlength, toList_repeatedSource hone, hrepeated, hends]
  cases hidden with
  | false => rfl
  | true => rfl

/-- Repeating a pattern makes no difference to whether it has a meaning. -/
theorem meaning_repeated (m : Modes) (times : Nat) (ast : Ast) :
    meaning m (.repetition times (some times) true (.group (.flags []) ast)) =
      (meaning m ast).map fun r => (.repeated times (some times) (true != m.swapGreed) r.1, m) := by
  have hmodes : m.apply [] = m := rfl
  simp only [meaning, hmodes]
  cases meaning m ast with
  | error e => rfl
  | ok r => rfl

/-- A pattern can be compiled if it can be read and what is read has a meaning. -/
theorem exists_compile_eq_ok {pattern : String} :
    (∃ automaton, compile pattern = .ok automaton) ↔
      ∃ ast, parse pattern = .ok ast ∧ ∃ r, meaning {} ast = .ok r := by
  unfold compile
  rw [exists_bind_eq_ok_iff]
  refine exists_congr fun ast => and_congr_right fun _ => ?_
  rw [exists_bind_eq_ok_iff]
  exact exists_congr fun r => and_iff_left ⟨_, rfl⟩

/-- A pattern that can be compiled can be compiled for a number of matches in a row if it is
repeatable, and only then. -/
theorem compile_repeatedSource {pattern : String} {automaton : Automaton}
    (h : compile pattern = .ok automaton) {times : Nat} (htimes : times < UInt32.size) :
    (∃ repeated, compile (PatternTable.repeatedSource pattern times) = .ok repeated) ↔
      times = 1 ∨ repeatable pattern = true := by
  obtain ⟨ast, hparse, r, hmeaning⟩ := exists_compile_eq_ok.mp ⟨automaton, h⟩
  by_cases hone : times = 1
  · have hsource : PatternTable.repeatedSource pattern times = pattern := if_pos hone
    rw [hsource]
    exact iff_of_true ⟨automaton, h⟩ (.inl hone)
  · unfold repeatable
    rw [exists_compile_eq_ok, parse_repeatedSource hparse hone htimes, hparse]
    cases hends : endsInComment pattern with
    | true => simp [hone]
    | false =>
      by_cases hdepth : nestLimit < ast.depth + 2
      · simp [hone, hdepth]
      · simp [hone, hdepth, meaning_repeated, hmeaning, Except.map, Nat.not_lt.mp hdepth]

end Peg.Regex
