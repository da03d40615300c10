import Peg.Compiler
import Peg.Parse.Interpreter
import Peg.Proofs.Code.Lowered
import Peg.Proofs.Grammar.RepeatCounts
import Peg.Proofs.Parse.PatternTable
import Peg.Proofs.Regex.Repeatable

/-!
# Parsers that can be run

The patterns of a generated parser are compiled again when it is run, together with their repeat
counts. By then every pattern has been compiled on its own, so all that can go wrong is that a
pattern which is applied several times in a row is not repeatable.
-/

namespace Peg

namespace Combinator

/-- Every pattern can be compiled on its own, and its repeat count fits into 32 bits. -/
def Checked (c : Combinator) : Prop :=
  ∀ p ∈ c.patterns, p.2 < UInt32.size ∧ ∃ automaton, Regex.compile p.1 = .ok automaton

/-- Whether the combinator is a pattern. -/
def isPattern : Combinator → Bool
  | .pattern _ _ => true
  | _ => false

/-- The patterns of a combinator are those of its operands, unless it is a pattern. -/
theorem patterns_eq {c : Combinator} (h : c.isPattern = false) :
    c.patterns = c.operands.flatMap patterns := by
  rw [patterns, preorder_eq, List.filterMap_cons_none, List.filterMap_flatMap]
  · rfl
  · cases c with
    | pattern => cases h
    | _ => rfl

/-- A combinator that is no pattern is checked if all its operands are. -/
theorem checked_of_operands {c : Combinator} (hc : c.isPattern = false)
    (h : ∀ d ∈ c.operands, d.Checked) : c.Checked := by
  intro p hp
  rw [patterns_eq hc] at hp
  obtain ⟨d, hd, hp⟩ := List.mem_flatMap.mp hp
  exact h d hd p hp

/-- A combinator with one operand is checked if that operand is. -/
theorem checked_of_operand {c body : Combinator} (hc : c.isPattern = false)
    (hbody : c.operands = [body]) (h : body.Checked) : c.Checked :=
  checked_of_operands hc (by simpa [hbody] using h)

/-- A pattern that compiles is checked, if its count fits. -/
theorem checked_pattern {source : String} {times : Nat} (htimes : times < UInt32.size)
    {automaton : Regex.Automaton} (h : Regex.compile source = .ok automaton) :
    (pattern source times).Checked := by
  intro p hp
  have hsingle : (pattern source times).patterns = [(source, times)] := rfl
  rw [hsingle, List.mem_singleton] at hp
  subst hp
  exact ⟨htimes, automaton, h⟩

/-- A marker keeps what it marks checked. -/
theorem Checked.lower {body : Combinator} (h : body.Checked) (label : String) (marker : Marker) :
    (marker.lower label body).Checked := by
  cases marker with
  | inline => exact h
  | _ => exact checked_of_operand rfl rfl h

end Combinator

namespace Grammar

variable {g : Grammar} {c : Combinator}

/-- What an element is lowered to is checked if that is so for its references. -/
theorem checked_of_lower {label : String} {follow : Reference → Except LoweringError Combinator}
    (hfollow : ∀ {r c}, follow r = .ok c → c.Checked) {e : Element} (he : e.CountsFit)
    (h : e.lower label follow = .ok c) : c.Checked := by
  induction e generalizing c with
  | text =>
    cases h
    exact Combinator.checked_of_operands rfl (by simp [Combinator.operands])
  | regex _ pattern times =>
    simp only [Element.lower] at h
    split at h
    next automaton hcompile =>
      cases h
      exact Combinator.checked_pattern he.2 hcompile
    · cases h
  | number => cases h
  | boolean => cases h
  | reference => exact hfollow h
  | sequence _ left right ihl ihr | choice _ left right ihl ihr =>
    simp only [Element.lower, bind_eq_ok_iff] at h
    obtain ⟨l, hleft, r, hright, h⟩ := h
    cases h
    refine Combinator.checked_of_operands rfl ?_
    simp [Combinator.operands, ihl he.1 hleft, ihr he.2 hright]
  | optional _ body ih | zeroOrMore _ body ih | oneOrMore _ body ih | not _ body ih =>
    simp only [Element.lower, bind_eq_ok_iff] at h
    obtain ⟨b, hbody, h⟩ := h
    cases h
    exact Combinator.checked_of_operand rfl rfl (ih he hbody)
  | marked _ marker body ih =>
    simp only [Element.lower, bind_eq_ok_iff] at h
    obtain ⟨b, hbody, h⟩ := h
    cases h
    exact (ih he hbody).lower label marker

/-- What a reference lowers to is checked, be it a call or a body that is spliced in. -/
theorem checked_of_lowerReference (hg : g.CountsFit) {callable : List Nat} {budget : Nat}
    {expanding : List Nat} {r : Reference}
    (h : g.lowerReference callable budget expanding r = .ok c) : c.Checked := by
  induction budget generalizing expanding r c with
  | zero => cases h
  | succ budget ih =>
    simp only [lowerReference] at h
    split at h
    · cases h
    next d hfind =>
      split at h
      · cases h
      · split at h
        · cases h
          exact Combinator.checked_of_operands rfl (by simp [Combinator.operands])
        · split at h
          · cases h
          · exact checked_of_lower ih (hg d (mem_of_find? hfind)) h

/-- Every pattern of a program that was lowered from a grammar has been compiled on its own. -/
theorem checked_patterns_of_lower (hg : g.CountsFit) {a : Analysis} {program : Program}
    (h : g.lower a = .ok program) : ∀ p ∈ program.patterns,
      p.2 < UInt32.size ∧ ∃ automaton, Regex.compile p.1 = .ok automaton := by
  unfold lower at h
  split at h
  · cases h
  next root hroot =>
    obtain ⟨rules, hrules, h⟩ := bind_eq_ok_iff.mp h
    split at h
    next program' hprogram =>
      cases h
      intro p hp
      obtain ⟨rule, hrule, hp⟩ := List.mem_flatMap.mp (List.mem_eraseDups.mp hp)
      rw [(ofRules_eq_ok hprogram).1] at hrule
      obtain ⟨d, hd, hlowered⟩ := exists_mem_of_mem_of_mapM_eq_ok hrules hrule
      obtain ⟨id, _, hget⟩ := List.mem_filterMap.mp hd
      obtain ⟨body, hbody, hlowered⟩ := bind_eq_ok_iff.mp hlowered
      cases hlowered
      exact checked_of_lower (checked_of_lowerReference hg) (hg d (mem_of_get? hget)) hbody p hp
    · cases h

end Grammar

namespace Compiler

/-- In a grammar read from a tree every count fits. -/
theorem countsFit_of_ofTree {tree : SyntaxTree} {c : Compiler} (h : ofTree tree = .ok c) :
    c.grammar.CountsFit := by
  unfold ofTree at h
  split at h
  next grammar hgrammar =>
    cases h
    exact Grammar.countsFit_ofTree tree grammar hgrammar
  · cases h

/-- The program of a generated parser was lowered from the grammar. -/
theorem lower_of_compileParser {c : Compiler} {program : Program}
    (h : c.compileParser.program = some program) : c.grammar.lower c.analysis = .ok program := by
  unfold compileParser at h
  split at h
  · cases h
  · split at h
    next generated code hgenerated =>
      obtain rfl : generated = program := Option.some.inj h
      unfold Code.generate at hgenerated
      split at hgenerated
      · cases hgenerated
      · cases hgenerated
      · obtain ⟨lowered, hlowered, hgenerated⟩ := bind_eq_ok_iff.mp hgenerated
        cases hgenerated
        exact hlowered
    · cases h

/-- A parser that was generated from a tree can be run just if all patterns that it applies more or
less often than once are repeatable. -/
theorem runnable_iff_repeatable {tree : SyntaxTree} {c : Compiler} (htree : ofTree tree = .ok c)
    {config : Config} {program : Program}
    (hprogram : (c.withConfig config).compileParser.program = some program) (limit : Nat) :
    (∃ i, Interpreter.ofProgram program limit = .ok i) ↔
      ∀ p ∈ program.patterns, p.2 = 1 ∨ Regex.repeatable p.1 = true := by
  have hlower : c.grammar.lower (c.withConfig config).analysis = .ok program :=
    lower_of_compileParser hprogram
  have hchecked := Grammar.checked_patterns_of_lower (countsFit_of_ofTree htree) hlower
  rw [Interpreter.exists_ofProgram_eq_ok_iff]
  refine forall₂_congr fun p hp => ?_
  obtain ⟨htimes, automaton, hcompile⟩ := hchecked p hp
  exact Regex.compile_repeatedSource hcompile htimes

/-- The tree of `A=/…/{2};` with a pattern between the slashes. -/
def appliedTwice (pattern : String) : SyntaxTree :=
  .node .root [.node .definition [.token .ident "A", .token .equals "=",
    .node .regexTerm [.token .regex ("/" ++ pattern ++ "/"),
      .node .repeatCount [.token .braceOpen "\x7b", .token .number "2",
        .token .braceClose "\x7d"]],
    .token .semicolon ";"]]

/-- The program that is generated from a tree when the parser starts at a root. -/
def programAt (root : String) (tree : SyntaxTree) : Option Program :=
  (ofTree tree).toOption.bind fun c =>
    (c.withConfig { Config.empty with root := root }).compileParser.program

/-- A program that is generated from a tree is the program of a generated parser. -/
theorem exists_of_programAt {root : String} {tree : SyntaxTree} {program : Program}
    (h : programAt root tree = some program) :
    ∃ c, ofTree tree = .ok c ∧
      (c.withConfig { Config.empty with root := root }).compileParser.program = some program := by
  obtain ⟨c, hc, hprogram⟩ := Option.bind_eq_some_iff.mp h
  cases htree : ofTree tree with
  | error rejection => simp [htree, Except.toOption] at hc
  | ok c' =>
    obtain rfl : c' = c := by simpa [htree, Except.toOption] using hc
    exact ⟨c', rfl, hprogram⟩

/-- The parser for a row of two letters can be run. -/
theorem lettersTwice_runs :
    ∃ c program, ofTree (appliedTwice "[a-z]") = .ok c ∧
      (c.withConfig { Config.empty with root := "A" }).compileParser.program = some program ∧
      ∃ i, Interpreter.ofProgram program 1000 = .ok i := by
  have hprogram : programAt "A" (appliedTwice "[a-z]") =
      some ⟨[⟨"A", .pattern "[a-z]" 2, true⟩], ⟨0⟩, by decide⟩ := by decide +kernel
  obtain ⟨c, htree, hcompile⟩ := exists_of_programAt hprogram
  refine ⟨c, _, htree, hcompile, (runnable_iff_repeatable htree hcompile 1000).mpr ?_⟩
  decide +kernel

/-- The parser for a pattern that ends in a comment, applied twice in a row, cannot be run: the
comment hides the end of the group around the pattern. -/
theorem commentTwice_does_not_run :
    ∃ c program, ofTree (appliedTwice "(?x)a#b") = .ok c ∧
      (c.withConfig { Config.empty with root := "A" }).compileParser.program = some program ∧
      Interpreter.ofProgram program 1000 = .error (.invalidPattern "(?x)a#b") := by
  have hprogram : programAt "A" (appliedTwice "(?x)a#b") =
      some ⟨[⟨"A", .pattern "(?x)a#b" 2, true⟩], ⟨0⟩, by decide⟩ := by decide +kernel
  obtain ⟨c, htree, hcompile⟩ := exists_of_programAt hprogram
  refine ⟨c, _, htree, hcompile, Interpreter.ofProgram_eq_error ?_ 1000⟩
  rfl

end Compiler

end Peg
