import Peg.Code.Module
import Peg.Finding.Report
import Peg.Grammar.Reduction
import Peg.Highlight

/-!
# The compiler

A parser and highlighting are generated from a grammar under settings, each together with messages
for the author of the grammar.
-/

namespace Peg

open Peg.Text

/-- A grammar with its text and the settings for what is generated from it. -/
structure Compiler where
  source : String
  grammar : Grammar
  config : Config
  deriving DecidableEq, Repr

/-- Why a tree cannot be compiled, also as a message with a position. -/
structure Compiler.Rejection where
  cause : Malformed
  message : Message
  deriving DecidableEq, Repr

/-- What came of generating something, and all that there is to say about it. -/
structure Compiler.Output (α : Type) where
  success : Bool
  result : α
  messages : List Message
  deriving DecidableEq, Repr

/-- A generated parser as code and as a program. -/
structure Compiler.GeneratedParser where
  code : String
  program : Option Program
  deriving DecidableEq, Repr

namespace Compiler

/-- No parser: the code is empty. -/
def GeneratedParser.none : GeneratedParser :=
  ⟨"", .none⟩

/-- The output if something was generated. -/
def Output.generated {α : Type} (result : α) (messages : List Message) : Output α :=
  ⟨true, result, messages⟩

/-- The output if nothing was generated. -/
def Output.failed {α : Type} (nothing : α) (messages : List Message) : Output α :=
  ⟨false, nothing, messages⟩

/-- The generated parser as code, which is empty if nothing was generated. -/
def Output.code (o : Output GeneratedParser) : String :=
  o.result.code

/-- The generated parser as a program. -/
def Output.program (o : Output GeneratedParser) : Option Program :=
  o.result.program

/-- An error at the start of a span, or at the start of the text. -/
def errorAt (source text : String) (span : Option Span) : Message :=
  .error text ((LineIndex.ofText source).position ((span.map Span.start).getD 0))

/-- Read the grammar that a tree describes. The settings are those of the grammar. -/
def ofTree (tree : SyntaxTree) : Except Rejection Compiler :=
  match Grammar.ofTree tree with
  | .ok grammar => .ok ⟨tree.text, grammar, .ofGrammar grammar⟩
  | .error cause => .error ⟨cause, errorAt tree.text cause.message (some cause.span)⟩

/-- Put settings in front of those of the grammar. -/
def withConfig (c : Compiler) (config : Config) : Compiler :=
  { c with config := config.or (.ofGrammar c.grammar) }

/-- The facts about the grammar when the parser starts at the configured root. -/
def analysis (c : Compiler) : Analysis :=
  (c.grammar.analyze c.config.root).1

/-- What the analysis found. -/
def findings (c : Compiler) : List Finding :=
  (c.grammar.analyze c.config.root).2

/-- Findings as messages with positions. -/
def toMessages (c : Compiler) (findings : List Finding) : List Message :=
  findings.map (Finding.toMessage (LineIndex.ofText c.source))

/-- The findings of the analysis as messages. -/
def messages (c : Compiler) : List Message :=
  c.toMessages c.findings

/-- The findings of the analysis with the source around their places. -/
def renderFindings (c : Compiler) : String :=
  Report.render ⟨some c.source, none, false, false⟩ c.findings

/-- Whether the analysis found an error. -/
def hasErrors (c : Compiler) : Bool :=
  Findings.hasErrors c.findings

/-- Generate the parser: a program and code for it. An error of the analysis rules it out. -/
def compileParser (c : Compiler) : Output GeneratedParser :=
  if c.hasErrors then .failed .none c.messages
  else
    match Code.generate c.grammar c.analysis c.config with
    | .ok (program, code) => .generated ⟨code, program⟩ c.messages
    | .error e => .failed .none (c.messages ++ [errorAt c.source e.message e.span?])

/-- Derive the highlighting. An error of the analysis rules it out. -/
def deriveHighlighting (c : Compiler) : Output (Option Highlighting) :=
  if c.hasErrors then .failed none c.messages
  else
    let (result, findings) := c.grammar.deriveHighlighting c.config
    let messages := c.messages ++ c.toMessages findings
    match result with
    | .ok highlighting => .generated (some highlighting) messages
    | .error e => .failed none (messages ++ [errorAt c.source e.message (some e.span)])

end Compiler

end Peg
