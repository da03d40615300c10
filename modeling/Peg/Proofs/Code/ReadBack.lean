import Peg.Proofs.Code.Names
import Peg.Proofs.Parse.Program
import Peg.Proofs.Text.Quotation

/-!
# Generated code can be read back

An expression of generated code determines the operation that it was written for, since every part
of it ends where the part says and since patterns and functions are looked up in lists without
repetitions. So nothing of a program is lost in its code.
-/

namespace Peg.Code

open Peg.Text Peg.Text.Reader

/-- The truth value that a piece of code denotes. -/
def boolean? (text : String) : Option Bool :=
  if text = "true" then some true else if text = "false" then some false else none

/-- The upper bound that a piece of code denotes. -/
def bound? (text : String) : Option (Option Nat) :=
  if text = "None" then some none
  else (whole? (do expect "Some("; numberBefore ')') text).map some

/-- A truth value before a character, which is taken, too. -/
def booleanBefore (stop : Char) : Reader Bool := do
  found (boolean? (← textBefore stop))

/-- An upper bound before a character, which is taken, too. -/
def boundBefore (stop : Char) : Reader (Option Nat) := do
  found (bound? (← textBefore stop))

/-- An operand, which is passed as a closure. -/
def readOperand (read : Reader Combinator) : Reader Combinator := do
  expect "|p, n| "
  read

/-- The end of a call whose last argument is an operand. -/
def oneOperand {α : Type} (operand : Reader Combinator) (make : Combinator → α) : Reader α := do
  let body ← operand
  expect ")"
  return make body

/-- The arguments of a call with two operands. -/
def twoOperands (operand : Reader Combinator) (make : Combinator → Combinator → Combinator) :
    Reader Combinator := do
  let left ← operand
  expect ", "
  let right ← operand
  expect ")"
  return make left right

/-- The arguments of a literal. -/
def literalArguments : Reader Combinator := do
  let text ← Quoted.quoted
  expect ")"
  return .literal text

/-- The arguments of a pattern, which is looked up by its place. -/
def patternArguments (patterns : List (String × Nat)) : Reader Combinator := do
  let place ← numberBefore ')'
  let (source, times) ← found patterns[place]?
  return .pattern source times

/-- The arguments of a repetition. -/
def repetitionArguments (operand : Reader Combinator) : Reader Combinator := do
  let min ← numberBefore ','
  expect " "
  let max ← boundBefore ','
  expect " "
  oneOperand operand (.repetition min max)

/-- The arguments of an operation that keeps only text. -/
def terminalArguments (operand : Reader Combinator) : Reader Combinator := do
  let decode ← booleanBefore ','
  expect " "
  oneOperand operand (.terminal decode)

/-- The arguments of an operation that reports failures under a label. -/
def errorNameArguments (operand : Reader Combinator) : Reader Combinator := do
  let label ← Quoted.quoted
  expect ", "
  let promote ← booleanBefore ','
  expect " "
  oneOperand operand (.errorName label promote)

/-- The arguments of an operation of the parsing library. -/
def operation? (patterns : List (String × Nat)) (operand : Reader Combinator) :
    String → Option (Reader Combinator)
  | "p.literal" => some literalArguments
  | "p.pattern" => some (patternArguments patterns)
  | "p.sequence" => some (twoOperands operand .sequence)
  | "p.choice" => some (twoOperands operand .choice)
  | "p.repeat" => some (repetitionArguments operand)
  | "p.not" => some (oneOperand operand .not)
  | "p.drop" => some (oneOperand operand .drop)
  | "p.terminal" => some (terminalArguments operand)
  | "p.error_name" => some (errorNameArguments operand)
  | _ => none

/-- A call of an operation or of the function of a rule. A rule is looked up by its function. -/
def readCall (patterns : List (String × Nat)) (functions : List String)
    (operand : Reader Combinator) : Reader Combinator := do
  let name ← textBefore '('
  match operation? patterns operand name with
  | some arguments => do
    expect "n, "
    arguments
  | none => do
    expect "p, n)"
    return .call ⟨← found (functions.idxOf? name)⟩

/-- The operation that an expression was written for, if operations are nested less than `depth`
deep in it. -/
def readExpression (patterns : List (String × Nat)) (functions : List String) :
    Nat → Reader Combinator
  | 0 => failure
  | depth + 1 => readCall patterns functions (readOperand (readExpression patterns functions depth))

/-- The operation that a whole expression was written for. -/
def expression? (patterns : List (String × Nat)) (functions : List String) (text : String) :
    Option Combinator :=
  whole? (readExpression patterns functions (text.length + 1)) text

/-- A boolean is read back from its text. -/
theorem boolean?_boolean (value : Bool) : boolean? (boolean value) = some value := by
  cases value <;> rfl

/-- There is no comma in the text of a boolean. -/
theorem not_mem_boolean (value : Bool) : ',' ∉ (boolean value).toList := by
  cases value <;> decide

/-- A maximum is written as a number in parentheses. -/
theorem toList_bound_some (max : Nat) :
    (bound (some max)).toList = "Some(".toList ++ Nat.toDigits 10 max ++ [')'] := by
  have hparts : bound (some max) = "Some(" ++ max.repr ++ ")" := rfl
  rw [hparts, String.toList_append, String.toList_append, Nat.toList_repr]
  rfl

/-- There is no comma in the text of a maximum. -/
theorem not_mem_bound (max : Option Nat) : ',' ∉ (bound max).toList := by
  cases max with
  | none => decide
  | some max =>
    rw [toList_bound_some, List.mem_append, List.mem_append]
    rintro ((hmem | hmem) | hmem)
    · exact absurd hmem (by decide)
    · exact absurd (Nat.isDigit_of_mem_toDigits (by decide) (by decide) hmem) (by decide)
    · exact absurd hmem (by decide)

/-- A maximum is read back from its text. -/
theorem bound?_bound (max : Option Nat) : bound? (bound max) = some max := by
  cases max with
  | none => rfl
  | some max =>
    have hne : bound (some max) ≠ "None" := by
      rw [← String.toList_inj.ne, toList_bound_some]
      simp
    have hread : Reads (do expect "Some("; numberBefore ')') (bound (some max)) max :=
      ((reads_expect "Some(").bind (reads_numberBefore max (by decide))).congr (by
        rw [← String.toList_inj, toList_bound_some]
        simp)
    rw [bound?, if_neg hne, whole?_of_reads hread]
    rfl

/-- The operations of the parsing library are methods of its parser. -/
theorem operation?_eq_none {patterns : List (String × Nat)} {operand : Reader Combinator}
    {name : String} (h : '.' ∉ name.toList) : operation? patterns operand name = none := by
  unfold operation?
  split
  all_goals first | rfl | exact absurd (by decide) h

section Expressions

variable {patterns : List (String × Nat)} {functions : List String}

/-- A literal is written as a call with the quoted text. -/
theorem expression_literal (text : String) :
    expression patterns functions (.literal text) =
      "p.literal(n, " ++ Quoted.literal text ++ ")" :=
  rfl

/-- A pattern is written as a call with its place in the list of patterns. -/
theorem expression_pattern (source : String) (times : Nat) :
    expression patterns functions (.pattern source times) =
      "p.pattern(n, " ++ (patternIndex patterns source times).repr ++ ")" :=
  rfl

/-- A sequence is written as a call with two closures. -/
theorem expression_sequence (left right : Combinator) :
    expression patterns functions (.sequence left right) =
      "p.sequence(n, " ++ ("|p, n| " ++ expression patterns functions left) ++ ", " ++
        ("|p, n| " ++ expression patterns functions right) ++ ")" :=
  rfl

/-- A choice is written as a call with two closures. -/
theorem expression_choice (left right : Combinator) :
    expression patterns functions (.choice left right) =
      "p.choice(n, " ++ ("|p, n| " ++ expression patterns functions left) ++ ", " ++
        ("|p, n| " ++ expression patterns functions right) ++ ")" :=
  rfl

/-- A repetition is written as a call with its bounds and a closure. -/
theorem expression_repetition (min : Nat) (max : Option Nat) (body : Combinator) :
    expression patterns functions (.repetition min max body) =
      "p.repeat(n, " ++ min.repr ++ ", " ++ bound max ++ ", " ++
        ("|p, n| " ++ expression patterns functions body) ++ ")" :=
  rfl

/-- A lookahead is written as a call with a closure. -/
theorem expression_not (body : Combinator) :
    expression patterns functions (.not body) =
      "p.not(n, " ++ ("|p, n| " ++ expression patterns functions body) ++ ")" :=
  rfl

/-- A part without output is written as a call with a closure. -/
theorem expression_drop (body : Combinator) :
    expression patterns functions (.drop body) =
      "p.drop(n, " ++ ("|p, n| " ++ expression patterns functions body) ++ ")" :=
  rfl

/-- A terminal is written as a call with its flag and a closure. -/
theorem expression_terminal (decode : Bool) (body : Combinator) :
    expression patterns functions (.terminal decode body) =
      "p.terminal(n, " ++ boolean decode ++ ", " ++
        ("|p, n| " ++ expression patterns functions body) ++ ")" :=
  rfl

/-- A label is written as a call with its text, its flag and a closure. -/
theorem expression_errorName (label : String) (promote : Bool) (body : Combinator) :
    expression patterns functions (.errorName label promote body) =
      "p.error_name(n, " ++ (Quoted.literal label ++ ", " ++ boolean promote) ++ ", " ++
        ("|p, n| " ++ expression patterns functions body) ++ ")" :=
  rfl

/-- A rule is called through its function. -/
theorem expression_call (rule : RuleId) :
    expression patterns functions (.call rule) = (functions[rule.index]?).getD "" ++ "(p, n)" :=
  rfl

end Expressions

section Calls

variable {patterns : List (String × Nat)} {functions : List String} {operand : Reader Combinator}
  {text text' : String} {left right : Combinator}

/-- An operand is read behind the head of its closure. -/
theorem reads_readOperand {read : Reader Combinator} (h : Reads read text left) :
    Reads (readOperand read) ("|p, n| " ++ text) left :=
  (reads_expect "|p, n| ").bind h

/-- The only operand of a call is read up to the parenthesis. -/
theorem reads_oneOperand {α : Type} {make : Combinator → α} (h : Reads operand text left) :
    Reads (oneOperand operand make) (text ++ ")") (make left) :=
  (h.bind ((reads_expect ")").bind (reads_pure (make left)))).congr (by rw [String.append_empty])

/-- The two operands of a call are read one after the other. -/
theorem reads_twoOperands {make : Combinator → Combinator → Combinator}
    (h : Reads operand text left) (h' : Reads operand text' right) :
    Reads (twoOperands operand make) (text ++ ", " ++ text' ++ ")") (make left right) :=
  (h.bind ((reads_expect ", ").bind (h'.bind ((reads_expect ")").bind
    (reads_pure (make left right)))))).congr
      (by simp only [String.append_assoc, String.append_empty])

/-- A boolean is read up to the comma behind it. -/
theorem reads_booleanBefore (value : Bool) :
    Reads (booleanBefore ',') (boolean value ++ ",") value :=
  ((reads_textBefore (not_mem_boolean value)).bind (reads_found (boolean?_boolean value))).congr
    (by rw [String.append_empty]; rfl)

/-- A maximum is read up to the comma behind it. -/
theorem reads_boundBefore (max : Option Nat) :
    Reads (boundBefore ',') (bound max ++ ",") max :=
  ((reads_textBefore (not_mem_bound max)).bind (reads_found (bound?_bound max))).congr
    (by rw [String.append_empty]; rfl)

/-- The arguments of a literal are read back. -/
theorem reads_literalArguments (text : String) :
    Reads literalArguments (Quoted.literal text ++ ")") (.literal text) :=
  ((Quoted.reads_quoted text).bind ((reads_expect ")").bind
    (reads_pure (Combinator.literal text)))).congr (by rw [String.append_empty])

/-- The arguments of a pattern are read back if its place holds the pattern. -/
theorem reads_patternArguments {place times : Nat} {source : String}
    (h : patterns[place]? = some (source, times)) :
    Reads (patternArguments patterns) (place.repr ++ ")") (.pattern source times) :=
  ((reads_numberBefore place (by decide)).bind ((reads_found h).bind
    (reads_pure (Combinator.pattern source times)))).congr
      (by rw [String.append_empty, String.append_empty]; rfl)

/-- The arguments of a repetition are read back if its body is. -/
theorem reads_repetitionArguments (min : Nat) (max : Option Nat) (h : Reads operand text left) :
    Reads (repetitionArguments operand)
      (min.repr ++ ", " ++ bound max ++ ", " ++ text ++ ")") (.repetition min max left) :=
  ((reads_numberBefore min (by decide)).bind ((reads_expect " ").bind
    ((reads_boundBefore max).bind ((reads_expect " ").bind (reads_oneOperand h))))).congr
      (by simp [← String.toList_inj])

/-- The arguments of a terminal are read back if its body is. -/
theorem reads_terminalArguments (decode : Bool) (h : Reads operand text left) :
    Reads (terminalArguments operand) (boolean decode ++ ", " ++ text ++ ")")
      (.terminal decode left) :=
  ((reads_booleanBefore decode).bind ((reads_expect " ").bind (reads_oneOperand h))).congr
    (by simp [← String.toList_inj])

/-- The arguments of a label are read back if its body is. -/
theorem reads_errorNameArguments (label : String) (promote : Bool) (h : Reads operand text left) :
    Reads (errorNameArguments operand)
      (Quoted.literal label ++ ", " ++ boolean promote ++ ", " ++ text ++ ")")
      (.errorName label promote left) :=
  ((Quoted.reads_quoted label).bind ((reads_expect ", ").bind
    ((reads_booleanBefore promote).bind ((reads_expect " ").bind (reads_oneOperand h))))).congr
      (by simp [← String.toList_inj])

/-- A call of the parsing library is read by its name and then by its arguments. -/
theorem reads_operation (name : String) {arguments : Reader Combinator} {c : Combinator}
    (hname : '(' ∉ name.toList) (hoperation : operation? patterns operand name = some arguments)
    (h : Reads arguments text c) :
    Reads (readCall patterns functions operand) (name ++ "(n, " ++ text) c := by
  have hcall : Reads (readCall patterns functions operand)
      (name ++ String.singleton '(' ++ ("n, " ++ text)) c := by
    refine (reads_textBefore hname).bind ?_
    rw [hoperation]
    exact (reads_expect "n, ").bind h
  exact hcall.congr (by simp [← String.toList_inj])

/-- The call of a function is read by the name of the function. -/
theorem reads_ruleCall {index : Nat} {function : String} (hplain : IsPlain function)
    (hfunction : functions.idxOf? function = some index) :
    Reads (readCall patterns functions operand) (function ++ "(p, n)") (.call ⟨index⟩) := by
  have hopen : '(' ∉ function.toList := fun hmem => nomatch hplain _ hmem
  have hdot : '.' ∉ function.toList := fun hmem => nomatch hplain _ hmem
  have hcall : Reads (readCall patterns functions operand)
      (function ++ String.singleton '(' ++ ("p, n)" ++ ("" ++ ""))) (.call ⟨index⟩) := by
    refine (reads_textBefore hopen).bind ?_
    rw [operation?_eq_none hdot]
    exact (reads_expect "p, n)").bind
      ((reads_found hfunction).bind (reads_pure (Combinator.call ⟨index⟩)))
  exact hcall.congr (by simp [← String.toList_inj])

end Calls

/-- Where every pattern is in the list of patterns and every called rule has a function, the
combinator can be looked up in them. -/
structure Listed (patterns : List (String × Nat)) (functions : List String) (c : Combinator) :
    Prop where
  patterns_mem : ∀ pattern ∈ c.patterns, pattern ∈ patterns
  calls_lt : ∀ id ∈ c.calls, id.index < functions.length

section Listed

variable {patterns : List (String × Nat)} {functions : List String} {c d : Combinator}

/-- Patterns and rules in an operand are those of the whole combinator. -/
theorem Listed.operand (h : Listed patterns functions c) (hd : d ∈ c.operands) :
    Listed patterns functions d where
  patterns_mem pattern hpattern :=
    h.patterns_mem pattern (List.filterMap_subset _ (Combinator.preorder_subset hd) hpattern)
  calls_lt id hid :=
    h.calls_lt id (List.filterMap_subset _ (Combinator.preorder_subset hd) hid)

/-- The place that is written for a pattern is its place. -/
theorem getElem?_patternIndex {source : String} {times : Nat} (h : (source, times) ∈ patterns) :
    patterns[patternIndex patterns source times]? = some (source, times) := by
  obtain ⟨i, hi⟩ := Option.isSome_iff_exists.mp (List.isSome_idxOf?.mpr h)
  obtain ⟨hlt, hget, _⟩ := List.idxOf?_eq_some_iff.mp hi
  rw [patternIndex, hi, Option.getD_some, List.getElem?_eq_getElem hlt, hget]

/-- Without repetitions, a function is found at its place. -/
theorem idxOf?_getElem (hdistinct : functions.Nodup) {i : Nat} (hi : i < functions.length) :
    functions.idxOf? functions[i] = some i := by
  refine List.idxOf?_eq_some_iff.mpr ⟨hi, rfl, fun j hj heq => ?_⟩
  exact absurd ((List.Nodup.getElem_inj_iff hdistinct).mp heq) (Nat.ne_of_lt hj)

/-- The text of an operand is part of the text of the operation. -/
theorem length_expression_lt (hd : d ∈ c.operands) :
    (expression patterns functions d).length < (expression patterns functions c).length := by
  have hclose : ")".length = 1 := rfl
  cases c <;> simp only [Combinator.operands, List.mem_cons, List.not_mem_nil, or_false] at hd
  case sequence =>
    rw [expression_sequence]
    rcases hd with rfl | rfl <;> (simp only [String.length_append]; omega)
  case choice =>
    rw [expression_choice]
    rcases hd with rfl | rfl <;> (simp only [String.length_append]; omega)
  all_goals
    subst hd
    simp only [expression_repetition, expression_not, expression_drop, expression_terminal,
      expression_errorName, String.length_append]
    omega

/-- An expression is read back as the operation that it was written for. -/
theorem reads_expression (hplain : ∀ function ∈ functions, IsPlain function)
    (hdistinct : functions.Nodup) (hc : Listed patterns functions c) {depth : Nat}
    (hdepth : (expression patterns functions c).length < depth) :
    Reads (readExpression patterns functions depth) (expression patterns functions c) c := by
  -- Operands are read with less depth, which is enough for their texts are shorter.
  induction depth generalizing c with
  | zero => exact absurd hdepth (Nat.not_lt_zero _)
  | succ depth ih =>
    have hoperand (d : Combinator) (hd : d ∈ c.operands) :
        Reads (readOperand (readExpression patterns functions depth))
          ("|p, n| " ++ expression patterns functions d) d :=
      reads_readOperand (ih (hc.operand hd)
        (Nat.lt_of_lt_of_le (length_expression_lt hd) (Nat.le_of_lt_succ hdepth)))
    rw [readExpression]
    cases c with
    | literal text =>
      rw [expression_literal]
      exact (reads_operation "p.literal" (by decide) (by rw [operation?])
        (reads_literalArguments text)).congr (by simp [← String.toList_inj])
    | pattern source times =>
      have hplace := getElem?_patternIndex (hc.patterns_mem (source, times) List.mem_cons_self)
      rw [expression_pattern]
      exact (reads_operation "p.pattern" (by decide) (by rw [operation?])
        (reads_patternArguments hplace)).congr (by simp [← String.toList_inj])
    | sequence left right =>
      have h := hoperand left List.mem_cons_self
      have h' := hoperand right (List.mem_cons_of_mem _ List.mem_cons_self)
      rw [expression_sequence]
      exact (reads_operation "p.sequence" (by decide) (by rw [operation?])
        (reads_twoOperands h h')).congr (by simp [← String.toList_inj])
    | choice left right =>
      have h := hoperand left List.mem_cons_self
      have h' := hoperand right (List.mem_cons_of_mem _ List.mem_cons_self)
      rw [expression_choice]
      exact (reads_operation "p.choice" (by decide) (by rw [operation?])
        (reads_twoOperands h h')).congr (by simp [← String.toList_inj])
    | repetition min max body =>
      have h := hoperand body List.mem_cons_self
      rw [expression_repetition]
      exact (reads_operation "p.repeat" (by decide) (by rw [operation?])
        (reads_repetitionArguments min max h)).congr (by simp [← String.toList_inj])
    | not body =>
      have h := hoperand body List.mem_cons_self
      rw [expression_not]
      exact (reads_operation "p.not" (by decide) (by rw [operation?]) (reads_oneOperand h)).congr
        (by simp [← String.toList_inj])
    | drop body =>
      have h := hoperand body List.mem_cons_self
      rw [expression_drop]
      exact (reads_operation "p.drop" (by decide) (by rw [operation?]) (reads_oneOperand h)).congr
        (by simp [← String.toList_inj])
    | terminal decode body =>
      have h := hoperand body List.mem_cons_self
      rw [expression_terminal]
      exact (reads_operation "p.terminal" (by decide) (by rw [operation?])
        (reads_terminalArguments decode h)).congr (by simp [← String.toList_inj])
    | errorName label promote body =>
      have h := hoperand body List.mem_cons_self
      rw [expression_errorName]
      exact (reads_operation "p.error_name" (by decide) (by rw [operation?])
        (reads_errorNameArguments label promote h)).congr (by simp [← String.toList_inj])
    | call rule =>
      have hrule := hc.calls_lt rule List.mem_cons_self
      rw [expression_call, List.getElem?_eq_getElem hrule, Option.getD_some]
      exact reads_ruleCall (hplain _ (List.getElem_mem hrule)) (idxOf?_getElem hdistinct hrule)

/-- A combinator is read back from its text if the functions have different plain names. -/
theorem expression?_expression (hplain : ∀ function ∈ functions, IsPlain function)
    (hdistinct : functions.Nodup) (hc : Listed patterns functions c) :
    expression? patterns functions (expression patterns functions c) = some c :=
  whole?_of_reads (reads_expression hplain hdistinct hc (Nat.lt_succ_self _))

end Listed

end Peg.Code
