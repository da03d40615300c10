import Peg.Compiler

/-!
# Messages tell whether something was generated

Whatever keeps a parser or the highlighting from being generated is reported as an error, and what
else is reported is a warning. So a caller can go by the messages just as well as by what was
generated.
-/

namespace Peg

open Peg.Text

/-- A finding becomes a message of the same severity. -/
theorem Finding.isError_toMessage (index : LineIndex) (f : Finding) :
    (f.toMessage index).isError = f.isError := rfl

namespace Code

/-- A text of at least one line is not empty, since each line ends in a line break. -/
theorem unlines_cons_ne_empty (line : String) (lines : List String) :
    unlines (line :: lines) ≠ "" := by
  intro h
  have hlength := congrArg String.length h
  simp [unlines, String.join_cons] at hlength

/-- Code has at least a header, or else a line that opens its module. -/
theorem Module.render_ne_empty (m : Module) : m.render ≠ "" := by
  unfold Module.render
  split
  · exact unlines_cons_ne_empty _ _
  · exact unlines_cons_ne_empty _ _

/-- What is generated for a program is never empty. -/
theorem code_ne_empty_of_generate {g : Grammar} {a : Analysis} {c : Config} {program : Program}
    {code : String} (h : generate g a c = .ok (program, code)) : code ≠ "" := by
  unfold generate at h
  split at h
  · cases h
  · cases h
  · cases hlower : g.lower a with
    | error e =>
      rw [hlower] at h
      cases h
    | ok lowered =>
      rw [hlower] at h
      cases h
      exact Module.render_ne_empty _

end Code

namespace Grammar

variable {g : Grammar} {suffix : Option String} {f : Finding}

/-- A scope that does not show is worth a warning. -/
theorem isError_eq_false_of_mem_shadowFindings {d : Definition}
    (hf : f ∈ g.shadowFindings suffix d) : f.isError = false := by
  unfold shadowFindings at hf
  dsimp only at hf
  repeat' split at hf
  -- in all cases but the last one nothing is found
  all_goals try exact absurd hf List.not_mem_nil
  cases List.mem_singleton.mp hf
  rfl

/-- Deriving the highlighting reports warnings only. -/
theorem isError_eq_false_of_mem_deriveRules {definitions : List Definition}
    (hf : f ∈ (g.deriveRules suffix definitions).2) : f.isError = false := by
  induction definitions with
  | nil => cases hf
  | cons d definitions ih =>
    rw [deriveRules] at hf
    split at hf
    · exact isError_eq_false_of_mem_shadowFindings hf
    · rcases List.mem_append.mp hf with hshadow | hrest
      · exact isError_eq_false_of_mem_shadowFindings hshadow
      · exact ih hrest

end Grammar

namespace Compiler

variable {α : Type} {c : Compiler}

/-- The message of a failure that stops the compiler is an error. -/
theorem isError_errorAt (source text : String) (span : Option Span) :
    (errorAt source text span).isError = true := rfl

/-- A compiler has no errors if none of its messages is one. -/
theorem hasErrors_eq_false_iff :
    c.hasErrors = false ↔ ∀ m ∈ c.messages, m.isError = false := by
  simp [hasErrors, Findings.hasErrors, messages, toMessages, Finding.isError_toMessage]

/-- The fields of an output agree: a success comes with a whole result, a failure with nothing, and
there is an error among the messages just after a failure. The messages start with the findings. -/
structure Output.Consistent (findings : List Message) (nothing : α) (whole : α → Prop)
    (o : Output α) : Prop where
  starts : findings <+: o.messages
  whole_of_success : o.success = true → whole o.result
  nothing_of_failure : o.success = false → o.result = nothing
  success_iff : o.success = true ↔ ∀ m ∈ o.messages, m.isError = false

/-- A failure is filled consistently if there is an error among its messages. -/
theorem Output.consistent_failed {findings messages : List Message} {nothing : α}
    {whole : α → Prop} (hstarts : findings <+: messages)
    (herror : ∃ m ∈ messages, m.isError = true) :
    Output.Consistent findings nothing whole (.failed nothing messages) where
  starts := hstarts
  whole_of_success := by simp [Output.failed]
  nothing_of_failure := fun _ => rfl
  success_iff := by
    have hsome : ¬ ∀ m ∈ messages, m.isError = false := by
      intro hnone
      obtain ⟨m, hm, herror⟩ := herror
      rw [hnone m hm] at herror
      cases herror
    simpa [Output.failed] using hsome

/-- A success is filled consistently if its result is whole and there is no error among its
messages. -/
theorem Output.consistent_generated {findings warnings : List Message} {nothing result : α}
    {whole : α → Prop} (hresult : whole result) (hfindings : ∀ m ∈ findings, m.isError = false)
    (hwarnings : ∀ m ∈ warnings, m.isError = false) :
    Output.Consistent findings nothing whole (.generated result (findings ++ warnings)) where
  starts := List.prefix_append _ _
  whole_of_success := fun _ => hresult
  nothing_of_failure := by simp [Output.generated]
  success_iff := by
    have hnone : ∀ m ∈ findings ++ warnings, m.isError = false := by
      intro m hm
      rcases List.mem_append.mp hm with hm | hm
      · exact hfindings m hm
      · exact hwarnings m hm
    simpa [Output.generated] using hnone

/-- An error of the analysis is one of the messages. -/
theorem exists_error_of_hasErrors (h : c.hasErrors = true) :
    ∃ m ∈ c.messages, m.isError = true := by
  have hsome : ¬ ∀ m ∈ c.messages, m.isError = false := by
    rw [← hasErrors_eq_false_iff, h]
    simp
  simpa using hsome

/-- What keeps something from being generated is an error behind all other messages. -/
theorem exists_error_of_errorAt (messages : List Message) (source text : String)
    (span : Option Span) : ∃ m ∈ messages ++ [errorAt source text span], m.isError = true :=
  ⟨errorAt source text span, by simp, isError_errorAt source text span⟩

/-- There is a program, and code for it. -/
def GeneratedParser.Whole (p : GeneratedParser) : Prop :=
  p.program.isSome = true ∧ p.code ≠ ""

/-- The fields of what comes of generating the parser agree. -/
theorem consistent_compileParser (c : Compiler) :
    c.compileParser.Consistent c.messages .none GeneratedParser.Whole := by
  unfold compileParser
  split
  next herrors => exact Output.consistent_failed List.prefix_rfl (exists_error_of_hasErrors herrors)
  next hnone =>
    have hfindings := hasErrors_eq_false_iff.mp (Bool.eq_false_iff.mpr hnone)
    split
    next program code hgenerated =>
      have hwhole : GeneratedParser.Whole ⟨code, program⟩ :=
        ⟨rfl, Code.code_ne_empty_of_generate hgenerated⟩
      have hwarnings : ∀ m ∈ ([] : List Message), m.isError = false := by simp
      simpa using Output.consistent_generated hwhole hfindings hwarnings
    next e _ =>
      exact Output.consistent_failed (List.prefix_append _ _) (exists_error_of_errorAt _ _ _ _)

/-- The fields of what comes of deriving the highlighting agree. -/
theorem consistent_deriveHighlighting (c : Compiler) :
    c.deriveHighlighting.Consistent c.messages none fun result => result.isSome = true := by
  unfold deriveHighlighting
  split
  next herrors => exact Output.consistent_failed List.prefix_rfl (exists_error_of_hasErrors herrors)
  next hnone =>
    have hfindings := hasErrors_eq_false_iff.mp (Bool.eq_false_iff.mpr hnone)
    have hwarnings : ∀ m ∈ c.toMessages (c.grammar.deriveHighlighting c.config).2,
        m.isError = false := by
      intro m hm
      obtain ⟨f, hf, rfl⟩ := List.mem_map.mp hm
      exact Grammar.isError_eq_false_of_mem_deriveRules hf
    dsimp only
    split
    next highlighting _ => exact Output.consistent_generated rfl hfindings hwarnings
    next e _ =>
      refine Output.consistent_failed ?_ (exists_error_of_errorAt _ _ _ _)
      rw [List.append_assoc]
      exact List.prefix_append _ _

/-- Where the fields agree, the result is whole just after a success. -/
theorem Output.Consistent.whole_iff {findings : List Message} {nothing : α} {whole : α → Prop}
    {o : Output α} (h : o.Consistent findings nothing whole) (part : α → Prop)
    (hpart : ∀ result, whole result → part result) (hnothing : ¬ part nothing) :
    part o.result ↔ o.success = true := by
  constructor
  · intro hresult
    cases hsuccess : o.success with
    | true => rfl
    | false =>
      rw [h.nothing_of_failure hsuccess] at hresult
      exact absurd hresult hnothing
  · exact fun hsuccess => hpart _ (h.whole_of_success hsuccess)

/-- What is generated and what is said about it never contradict each other, under any settings. For
the parser, success, a program, code that is not empty and the absence of errors among the messages
come together, and so do success, a result and the absence of errors for the highlighting. In both
cases the messages start with the findings of the analysis, in the order in which these were
reported. -/
theorem messages_agree_with_output (c : Compiler) (config : Config) :
    let configured := c.withConfig config
    let parser := configured.compileParser
    let highlighting := configured.deriveHighlighting
    let findings := (c.grammar.analyze (config.or (.ofGrammar c.grammar)).root).2.map
      (Finding.toMessage (LineIndex.ofText c.source))
    ((parser.success = true ↔ parser.program.isSome = true) ∧
      (parser.program.isSome = true ↔ parser.code ≠ "") ∧
      (parser.code ≠ "" ↔ ∀ m ∈ parser.messages, m.isError = false)) ∧
    ((highlighting.success = true ↔ highlighting.result.isSome = true) ∧
      (highlighting.result.isSome = true ↔ ∀ m ∈ highlighting.messages, m.isError = false)) ∧
    findings <+: parser.messages ∧ findings <+: highlighting.messages := by
  intro configured parser highlighting findings
  have hparser : parser.Consistent findings .none GeneratedParser.Whole :=
    configured.consistent_compileParser
  have hhighlighting : highlighting.Consistent findings none fun result => result.isSome = true :=
    configured.consistent_deriveHighlighting
  have hprogram : parser.program.isSome = true ↔ parser.success = true :=
    hparser.whole_iff (fun p => p.program.isSome = true) (fun _ h => h.1)
      (by simp [GeneratedParser.none])
  have hcode : parser.code ≠ "" ↔ parser.success = true :=
    hparser.whole_iff (fun p => p.code ≠ "") (fun _ h => h.2) (by simp [GeneratedParser.none])
  have hresult : highlighting.result.isSome = true ↔ highlighting.success = true :=
    hhighlighting.whole_iff (fun result => result.isSome = true) (fun _ h => h) (by simp)
  refine ⟨⟨hprogram.symm, hprogram.trans hcode.symm, hcode.trans hparser.success_iff⟩,
    ⟨hresult.symm, hresult.trans hhighlighting.success_iff⟩, ?_, ?_⟩
  · exact hparser.starts
  · exact hhighlighting.starts

end Compiler

end Peg
