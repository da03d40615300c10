import Peg.Proofs.Code.Declarations
import Peg.Proofs.Code.ReadBack

/-!
# Programs can be recovered from their code

The list of patterns and the functions of a module determine the patterns and the rules of the
program that the module was generated for, as long as no two functions have the same name.
-/

namespace Peg

/-- A combinator that could be in a rule of the program: its patterns are in the list of patterns,
and the rules that it calls exist. -/
structure Program.Admits (p : Program) (c : Combinator) : Prop where
  patterns_mem : ∀ pattern ∈ c.patterns, pattern ∈ p.patterns
  resolves : p.Resolves c

/-- A program admits the bodies of its own rules. -/
theorem Program.admits_body {p : Program} {rule : Rule} (h : rule ∈ p.rules) :
    p.Admits rule.body := by
  obtain ⟨i, hi⟩ := List.mem_iff_getElem?.mp h
  have hrule : p.rule? ⟨i⟩ = some rule := hi
  exact ⟨fun _ => Program.mem_patterns hrule, Program.resolves_body hrule⟩

namespace Code

open Peg.Text Peg.Text.Reader

/-- A line of the list of patterns. -/
def readPattern : Reader (String × Nat) := do
  expect "    ("
  let source ← Quoted.quoted
  expect ", "
  let times ← numberBefore ')'
  expect ","
  return (source, times)

/-- The patterns that lines list, up to the end of the list. -/
def listed? : List String → Option (List (String × Nat))
  | [] => none
  | line :: lines =>
    if line = "];" then if lines = [] then some [] else none
    else do
      let pattern ← whole? readPattern line
      let patterns ← listed? lines
      return pattern :: patterns

/-- The patterns that the lines for the list of patterns list. -/
def patterns? : List String → Option (List (String × Nat))
  | [] => none
  | _ :: lines =>
    if lines = ["pub const PATTERNS: &[(&str, u32)] = &[];"] then some []
    else if lines.head? = some "pub const PATTERNS: &[(&str, u32)] = &[" then listed? lines.tail
    else none

/-- The line of a function that calls its rule. -/
def readRule (operand : Reader Combinator) : Reader Rule := do
  expect "    p.call(n, "
  let name ← Quoted.quoted
  expect ", "
  let capture ← booleanBefore ','
  expect " "
  oneOperand operand fun body => ⟨name, body, capture⟩

/-- The rules that the lines of functions call. -/
def rules? (patterns : List (String × Nat)) (functions : List String) :
    List String → Option (List Rule)
  | [] => some []
  | _ :: _ :: line :: _ :: lines => do
    let operand := readOperand (readExpression patterns functions (line.length + 1))
    let rule ← whole? (readRule operand) line
    let rules ← rules? patterns functions lines
    return rule :: rules
  | _ => none

/-- A line is indented by four spaces unless it is empty. -/
theorem indent_eq {line : String} (h : line ≠ "") : indent line = "    " ++ line :=
  if_neg (by rwa [String.isEmpty_iff])

/-- A text that starts with certain characters is not empty. -/
theorem append_ne_empty {first rest : String} (h : first ≠ "") : first ++ rest ≠ "" := by
  rw [← String.toList_inj.ne] at h ⊢
  simp_all

/-- The line for a pattern. -/
def patternLine (pattern : String × Nat) : String :=
  "    (" ++ Quoted.literal pattern.1 ++ ", " ++ pattern.2.repr ++ "),"

/-- A pattern has an indented line to itself. -/
theorem indent_pattern (source : String) (times : Nat) :
    indent s!"({Quoted.literal source}, {times})," = patternLine (source, times) := by
  have hline : s!"({Quoted.literal source}, {times})," =
      "(" ++ (Quoted.literal source ++ (", " ++ (times.repr ++ "),"))) := by
    simp only [← String.append_assoc]
    rfl
  rw [hline, indent_eq (append_ne_empty (by decide)), patternLine]
  simp [← String.toList_inj]

/-- The list of patterns is an opening, a line for each pattern, and a closing. -/
theorem patternLines_eq {patterns : List (String × Nat)} (h : patterns ≠ []) :
    Module.patternLines patterns =
      "" :: "pub const PATTERNS: &[(&str, u32)] = &[" :: (patterns.map patternLine ++ ["];"]) := by
  have hempty : patterns.isEmpty = false := by simpa using h
  have hlines (f : String × Nat → String) (hf : ∀ pattern, f pattern = patternLine pattern) :
      patterns.map f = patterns.map patternLine :=
    List.map_congr_left fun pattern _ => hf pattern
  rw [Module.patternLines, hempty, if_neg Bool.false_ne_true, hlines]
  · rfl
  · rintro ⟨source, times⟩
    exact indent_pattern source times

/-- A pattern is read back from its line. -/
theorem reads_readPattern (pattern : String × Nat) :
    Reads readPattern (patternLine pattern) pattern := by
  obtain ⟨source, times⟩ := pattern
  have hparts : Reads readPattern _ (source, times) :=
    (reads_expect "    (").bind ((Quoted.reads_quoted source).bind ((reads_expect ", ").bind
      ((reads_numberBefore times (by decide)).bind ((reads_expect ",").bind
        (reads_pure (source, times))))))
  refine hparts.congr ?_
  rw [patternLine]
  simp [← String.toList_inj]

/-- Patterns are read back from their lines up to the closing. -/
theorem listed?_append (patterns : List (String × Nat)) :
    listed? (patterns.map patternLine ++ ["];"]) = some patterns := by
  induction patterns with
  | nil => rfl
  | cons pattern patterns ih =>
    have hne : patternLine pattern ≠ "];" := by
      rw [patternLine, ← String.toList_inj.ne]
      simp
    rw [List.map_cons, List.cons_append, listed?, if_neg hne,
      whole?_of_reads (reads_readPattern pattern), ih]
    rfl

/-- The list of patterns is read back. -/
theorem patterns?_patternLines (patterns : List (String × Nat)) :
    patterns? (Module.patternLines patterns) = some patterns := by
  by_cases h : patterns = []
  · subst h
    decide
  · rw [patternLines_eq h, patterns?, if_neg (by simp), if_pos (by simp)]
    exact listed?_append patterns

variable {patterns : List (String × Nat)} {functions : List String}

/-- The line of a function that calls its rule. -/
def callLine (f : Function) : String :=
  "    p.call(n, " ++ Quoted.literal f.rule ++ ", " ++ boolean f.capture ++ ", |p, n| " ++ f.body ++
    ")"

/-- The body of a function is a part of the line that calls its rule. -/
theorem length_body_le (f : Function) : f.body.length ≤ (callLine f).length := by
  have hline : callLine f = "    p.call(n, " ++ Quoted.literal f.rule ++ ", " ++
      boolean f.capture ++ ", |p, n| " ++ f.body ++ ")" := rfl
  rw [hline]
  simp only [String.length_append]
  omega

/-- A function has an empty line, a head, one line with the call, and a closing brace. -/
theorem functionLines_eq (f : Function) :
    ∃ head, Module.functionLines f = ["", head, callLine f, "\x7d"] := by
  have hcall (rule capture body : String) :
      indent s!"p.call(n, {rule}, {capture}, {closure body})" =
        "    p.call(n, " ++ rule ++ ", " ++ capture ++ ", |p, n| " ++ body ++ ")" := by
    have hline : s!"p.call(n, {rule}, {capture}, {closure body})" =
        "p.call(n, " ++ (rule ++ (", " ++ (capture ++ (", |p, n| " ++ (body ++ ")"))))) := by
      change "p.call(n, " ++ rule ++ ", " ++ capture ++ ", " ++ ("|p, n| " ++ body) ++ ")" = _
      simp [← String.toList_inj]
    rw [hline, indent_eq (append_ne_empty (by decide))]
    simp [← String.toList_inj]
  have hblock (head line : String) : block head [line] = [head ++ " \x7b", indent line, "\x7d"] :=
    rfl
  rw [Module.functionLines, hblock, hcall]
  exact ⟨_, rfl⟩

/-- The line that calls a rule is read back as the rule. -/
theorem reads_readRule {operand : Reader Combinator} {text : String} {body : Combinator}
    (function name : String) (capture : Bool) (h : Reads operand ("|p, n| " ++ text) body) :
    Reads (readRule operand) (callLine ⟨function, name, capture, text⟩) ⟨name, body, capture⟩ := by
  have hparts : Reads (readRule operand) _ ⟨name, body, capture⟩ :=
    (reads_expect "    p.call(n, ").bind ((Quoted.reads_quoted name).bind
      ((reads_expect ", ").bind ((reads_booleanBefore capture).bind
        ((reads_expect " ").bind (reads_oneOperand h)))))
  have hline : callLine ⟨function, name, capture, text⟩ = "    p.call(n, " ++ Quoted.literal name ++
      ", " ++ boolean capture ++ ", |p, n| " ++ text ++ ")" := rfl
  rw [hline]
  exact hparts.congr (by simp [← String.toList_inj])

/-- The lines of functions are read back as the rules that they call. -/
theorem rules?_flatMap {rules : List Rule} {fs : List Function}
    (h : List.Forall₂ (fun rule f => Reads (readRule (readOperand (readExpression patterns functions
      ((callLine f).length + 1)))) (callLine f) rule) rules fs) :
    rules? patterns functions (fs.flatMap Module.functionLines) = some rules := by
  induction h with
  | nil => rfl
  | @cons rule f rules fs hrule _ ih =>
    obtain ⟨head, hlines⟩ := functionLines_eq f
    rw [List.flatMap_cons, hlines]
    simp only [List.cons_append, List.nil_append, rules?, whole?_of_reads hrule, ih]
    rfl

namespace Module

/-- The names of the functions for the rules. -/
def names (m : Module) : List String :=
  m.functions.map Function.name

/-- The functions are named after the rules. -/
theorem names_eq (p : Program) (c : Config) :
    (ofProgram p c).names = (ruleNames p).map functionName :=
  (map_functionsOf p).2

/-- There is a function for each rule. -/
theorem length_names (p : Program) (c : Config) :
    (ofProgram p c).names.length = p.rules.length := by
  rw [names_eq, List.length_map, length_ruleNames]

/-- There is one function for each rule, and its expression is the one for the body of the rule. -/
theorem forall₂_functions (p : Program) (c : Config) :
    List.Forall₂ (fun rule f => rule ∈ p.rules ∧ ∃ name, f = ⟨name, rule.name, rule.capture,
      expression p.patterns (ofProgram p c).names rule.body⟩)
      p.rules (ofProgram p c).functions := by
  have hrules : (p.rules.zip ((ruleNames p).map functionName)).map Prod.fst = p.rules :=
    List.map_fst_zip (by simp [length_ruleNames])
  have hall : List.Forall₂ (fun rule f => rule ∈ p.rules ∧ ∃ name, f = ⟨name, rule.name,
      rule.capture, expression p.patterns (ofProgram p c).names rule.body⟩)
      ((p.rules.zip ((ruleNames p).map functionName)).map Prod.fst) (ofProgram p c).functions := by
    rw [names_eq]
    refine List.forall₂_map_left_iff.mpr (List.forall₂_map_right_iff.mpr ?_)
    exact List.forall₂_same.mpr fun entry hentry => ⟨(List.of_mem_zip hentry).1, entry.2, rfl⟩
  rwa [hrules] at hall

end Module

/-- What a program admits is written with its own patterns and functions. -/
theorem listed_of_admits {p : Program} {combinator : Combinator} (c : Config)
    (h : p.Admits combinator) : Listed p.patterns (Module.ofProgram p c).names combinator where
  patterns_mem := h.patterns_mem
  calls_lt id hid := by
    have hrule := h.resolves id hid
    rw [Module.length_names]
    simpa [Program.rule?] using hrule

/-- If no two functions of a module have the same name, the patterns and the rules of the program
can be read off its lines, and different combinators of the program are written differently. -/
theorem program_recovered {p : Program} {c : Config}
    (hdistinct : (Module.ofProgram p c).names.Nodup) :
    patterns? (Module.patternLines (Module.ofProgram p c).patterns) = some p.patterns ∧
      rules? p.patterns (Module.ofProgram p c).names
        ((Module.ofProgram p c).functions.flatMap Module.functionLines) = some p.rules ∧
      (∀ a, p.Admits a → expression? p.patterns (Module.ofProgram p c).names
        (expression p.patterns (Module.ofProgram p c).names a) = some a) ∧
      ∀ a b, p.Admits a → p.Admits b →
        expression p.patterns (Module.ofProgram p c).names a =
          expression p.patterns (Module.ofProgram p c).names b → a = b := by
  have hplain : ∀ function ∈ (Module.ofProgram p c).names, IsPlain function := by
    intro function hfunction
    rw [Module.names_eq] at hfunction
    obtain ⟨name, _, rfl⟩ := List.mem_map.mp hfunction
    exact isPlain_functionName name
  have hread (a : Combinator) (ha : p.Admits a) :=
    expression?_expression hplain hdistinct (listed_of_admits c ha)
  refine ⟨patterns?_patternLines p.patterns, rules?_flatMap ?_, hread, fun a b ha hb h => ?_⟩
  · refine (Module.forall₂_functions p c).imp ?_
    rintro rule f ⟨hrule, name, rfl⟩
    have hlength := length_body_le ⟨name, rule.name, rule.capture,
      expression p.patterns (Module.ofProgram p c).names rule.body⟩
    have hlisted := listed_of_admits c (Program.admits_body hrule)
    exact reads_readRule name rule.name rule.capture (reads_readOperand
      (reads_expression hplain hdistinct hlisted (Nat.lt_succ_of_le hlength)))
  · exact Option.some.inj ((hread a ha).symm.trans (h ▸ hread b hb))

/-- A program with texts that look like code, and with one pattern in two numbers. -/
def codeInTexts : Program where
  rules :=
    [⟨"Root", .sequence (.literal "\"), |p, n| p.drop(n, ") (.errorName "p.not(n" true (.call ⟨1⟩)),
      true⟩,
      ⟨"Item", .repetition 0 (some 2) (.choice (.pattern "[a-z]" 1) (.pattern "[a-z]" 2)), false⟩]
  entry := ⟨0⟩
  sound := by decide

/-- The names and the rules are read back although their texts look like code. -/
theorem codeInTexts_recovered :
    (Module.ofProgram codeInTexts Config.empty).names = ["parse_root", "parse_item"] ∧
      rules? codeInTexts.patterns ["parse_root", "parse_item"]
        ((Module.ofProgram codeInTexts Config.empty).functions.flatMap Module.functionLines) =
          some codeInTexts.rules := by
  have hnames : (Module.ofProgram codeInTexts Config.empty).names =
      ["parse_root", "parse_item"] := by
    have hrules : ruleNames codeInTexts = ["root", "item"] := by decide
    rw [Module.names_eq, hrules]
    decide
  have hrecovered := program_recovered (p := codeInTexts) (c := Config.empty)
    (by rw [hnames]; decide)
  rw [hnames] at hrecovered
  exact ⟨hnames, hrecovered.2.1⟩

end Code

end Peg
