import Peg.Code.Identifier
import Peg.Message
import Peg.ScopedStack
import Peg.Parse.Interpreter
import Peg.Parse.Routine
import Peg.Text.Blank
import Peg.Text.Escape
import Peg.Text.LetterCase
import Peg.Text.Quoted
import Peg.Text.Words
import Peg.Regex.Quote
import Peg.SyntaxTree.Builder
import Peg.Grammar.Variation
import Peg.Grammar.Reduction
import Peg.Analysis
import Peg.Config
import Peg.Finding.Report
import Peg.Code.Module
import Peg.Compiler
import Peg.Proofs.Regex.MatchEnd
import Peg.Proofs.Parse.PatternTable
import Peg.Proofs.Parse.Program
import Peg.Proofs.Parse.Runs
import Peg.Proofs.Parse.Kept
import Peg.Proofs.Parse.Frame
import Peg.Proofs.Parse.Recognition
import Peg.Proofs.Parse.Answers
import Peg.Proofs.Parse.Nesting
import Peg.Proofs.Parse.Interpretation
import Peg.Proofs.Parse.Atomicity
import Peg.Proofs.Parse.Cursor
import Peg.Proofs.Parse.Furthest
import Peg.Proofs.Parse.FailureReport
import Peg.Proofs.Scope
import Peg.Proofs.Scope.Lists
import Peg.Proofs.Grammar.DirectReading
import Peg.Proofs.Grammar.References
import Peg.Proofs.Analysis.CycleSearch
import Peg.Proofs.Analysis.CycleReport
import Peg.Proofs.Analysis.FinishingOrder
import Peg.Proofs.Analysis.Closure
import Peg.Proofs.Code.InlineExpansion
import Peg.Proofs.Code.Lowered
import Peg.Proofs.Grammar.Meaning
import Peg.Proofs.Code.MeaningPreserved
import Peg.Proofs.Grammar.Compositionality
import Peg.Proofs.Grammar.InnerRoots
import Peg.Proofs.Grammar.ReadParts
import Peg.Proofs.Grammar.Declared
import Peg.Proofs.Analysis.CycleStart
import Peg.Proofs.Analysis.OrderIndependence
import Peg.Proofs.Grammar.KeptParts
import Peg.Proofs.Parse.FixedOutput
import Peg.Proofs.Code.SteadyRules
import Peg.Proofs.Parse.Evaluation
import Peg.Proofs.Parse.Safety
import Peg.Proofs.Code.Lowerable
import Peg.Proofs.Code.LoweringExact
import Peg.Proofs.Code.Declarations
import Peg.Proofs.Highlight.GroupNumbers
import Peg.Proofs.Highlight.Composition
import Peg.Proofs.Highlight.Expressible
import Peg.Proofs.Parse.Termination
import Peg.Proofs.Parse.Output
import Peg.Proofs.Parse.TreeSpans
import Peg.Proofs.Parse.Lossless
import Peg.Proofs.Highlight.PrintedForm
import Peg.Proofs.Highlight.ParserInclusion
import Peg.Proofs.Parse.Lockstep
import Peg.Proofs.Parse.RecursionLimit
import Peg.Proofs.Parse.ErrorNames
import Peg.Proofs.Parse.Succession
import Peg.Proofs.Parse.Silence
import Peg.Proofs.Parse.FailurePlaces
import Peg.Proofs.Regex.Lengthening
import Peg.Proofs.Regex.LengthenedParts
import Peg.Proofs.Regex.InsideGroup
import Peg.Proofs.Regex.Repeatable
import Peg.Proofs.Grammar.RepeatCounts
import Peg.Proofs.Code.Runnable
import Peg.Proofs.Compiler.Messages
import Peg.Proofs.Grammar.NothingLost
import Peg.Proofs.Text.Hex
import Peg.Proofs.Text.Quotation
import Peg.Proofs.Text.Escapes
import Peg.Proofs.Text.QuotedForms
import Peg.Proofs.Code.ReadBack
import Peg.Proofs.Code.Recovered
import Peg.Proofs.Code.PatternNumbers
import Peg.Proofs.Analysis.Reachability
import Peg.Proofs.Analysis.RuleUse
import Peg.Proofs.Grammar.LiveReferences
import Peg.Proofs.Analysis.RelevanceWalk
import Peg.Proofs.Analysis.RelevanceCoverage
import Peg.Proofs.Analysis.RelevantRules
import Peg.Proofs.Grammar.Spelling
import Peg.Proofs.Grammar.TokensConserved
import Peg.Proofs.Grammar.NameResolution
import Peg.Proofs.Grammar.NestedSpans
import Peg.Proofs.Grammar.ErrorSpans
import Peg.Proofs.Text.Positions
import Peg.Proofs.Parse.FailureNotes
import Peg.Proofs.Parse.StartRule
import Peg.Proofs.Parse.Boundaries
import Peg.Proofs.Parse.Unrolling
import Peg.Proofs.Text.CaseConversion
import Peg.Proofs.Grammar.VariableText
import Peg.Proofs.Code.LegalNames
import Peg.Proofs.Parse.TranscriptLines
import Peg.Proofs.Code.PascalCase
import Peg.Proofs.Parse.Preorder
