import Peg.Proofs.Code.Lowered
import Peg.Proofs.Grammar.KeptParts
import Peg.Proofs.Parse.FixedOutput

/-!
# Rules without variable text

A rule whose body does not vary contributes the same text and the same nodes wherever it matches.
There is one exception: a terminal keeps all the text that its body spans, also what is dropped
inside it, which the analysis does not look at. So the result needs that no part of the text below a
terminal is left open by the grammar.
-/

namespace Peg

open Peg.Text

namespace Grammar

variable {g : Grammar} {callable : List Nat} {program : Program} {e inner : Element}
  {c : Combinator}

/-- Nothing that the element spans branches. -/
structure Steady (g : Grammar) (e : Element) : Prop where
  spans : ∀ part, g.Spans e part → part.branches = false

/-- What the terminals that the element keeps span is laid down by the grammar. -/
def TerminalsSteady (g : Grammar) (e : Element) : Prop :=
  ∀ (s : Span) (decode : Bool) (body : Element), g.Keeps e (.marked s (.terminal decode) body) →
    g.Steady body

/-- No kept part of the element branches, and its terminals are steady. -/
structure Calm (g : Grammar) (e : Element) : Prop where
  keeps : ∀ part, g.Keeps e part → part.branches = false
  terminals : g.TerminalsSteady e

/-- What a steady element spans is steady. -/
theorem Steady.part (h : g.Steady e) (hinner : g.Spans e inner) : g.Steady inner where
  spans part hpart := h.spans part (hinner.trans hpart)

/-- What a calm element keeps is calm. -/
theorem Calm.part (h : g.Calm e) (hinner : g.Keeps e inner) : g.Calm inner where
  keeps part hpart := h.keeps part (hinner.trans hpart)
  terminals s decode body hbody := h.terminals s decode body (hinner.trans hbody)

/-- An element stands for one of its parts. -/
theorem Expands.within {through : Marker → Prop} {head : Element} (hinline : through .inline)
    (h : g.Expands e head) : g.Within through [] head e := by
  induction h with
  | refl => exact .refl
  | reference hfind _ ih => exact .reference hfind List.not_mem_nil ih
  | inline _ ih => exact .marked hinline ih

/-- The combinator was lowered from an element of a kind. -/
def LoweredFrom (g : Grammar) (callable : List Nat) (kind : Element → Prop) (c : Combinator) :
    Prop :=
  ∃ head, g.LowersHead callable head c ∧ kind head

section Kinds

variable {kind : Element → Prop} {through : Marker → Prop}

/-- Elements of a kind that includes their parts are lowered as elements of this kind. -/
theorem loweredFrom_of_lowers
    (hpart : ∀ {e part}, kind e → g.Within through [] part e → kind part)
    (hinline : through .inline) (he : kind e) (h : g.Lowers callable e c) :
    g.LoweredFrom callable kind c := by
  cases h with
  | intro hexpands hhead => exact ⟨_, hhead, hpart he (hexpands.within hinline)⟩

/-- A kind of elements that do not branch, of which all parts are of the kind again, is a kind of
combinators of this sort. -/
theorem unbranched_loweredFrom (hcarries : g.Carries callable program)
    (hbranches : ∀ {e}, kind e → e.branches = false)
    (hpart : ∀ {e part}, kind e → g.Within through [] part e → kind part)
    (hinline : through .inline) (hpromote : through .promoteError)
    (hname : through .nameAsError) : program.Unbranched (g.LoweredFrom callable kind) where
  pattern := by
    rintro source times ⟨head, hhead, hkind⟩
    have hfalse := hbranches hkind
    cases hhead
    cases hfalse
  choice := by
    rintro left right ⟨head, hhead, hkind⟩
    have hfalse := hbranches hkind
    cases hhead
    cases hfalse
  repetition := by
    rintro min max body ⟨head, hhead, hkind⟩
    have hfalse := hbranches hkind
    cases hhead <;> cases hfalse
  sequence := by
    rintro left right ⟨head, hhead, hkind⟩
    cases hhead with
    | sequence hleft hright =>
      exact ⟨loweredFrom_of_lowers hpart hinline (hpart hkind (.left .refl)) hleft,
        loweredFrom_of_lowers hpart hinline (hpart hkind (.right .refl)) hright⟩
  errorName := by
    rintro label promote body ⟨head, hhead, hkind⟩
    cases hhead with
    | promoteError hbody =>
      exact loweredFrom_of_lowers hpart hinline (hpart hkind (.marked hpromote .refl)) hbody
    | nameAsError hbody =>
      exact loweredFrom_of_lowers hpart hinline (hpart hkind (.marked hname .refl)) hbody
  call := by
    rintro id rule hrule ⟨head, hhead, hkind⟩
    cases hhead with
    | call hfind hindex =>
      obtain ⟨found, hfound, hbody⟩ := hcarries (mem_of_find? hfind) hindex
      obtain rfl := Option.some.inj (hrule.symm.trans hfound)
      have hinside := hpart hkind (.reference hfind List.not_mem_nil .refl)
      exact loweredFrom_of_lowers hpart hinline hinside hbody

end Kinds

/-- Steady elements are lowered as steady ones. -/
theorem Steady.loweredFrom (h : g.Steady e) (hlowers : g.Lowers callable e c) :
    g.LoweredFrom callable g.Steady c :=
  loweredFrom_of_lowers Steady.part trivial h hlowers

/-- Calm elements are lowered as calm ones. -/
theorem Calm.loweredFrom (h : g.Calm e) (hlowers : g.Lowers callable e c) :
    g.LoweredFrom callable g.Calm c :=
  loweredFrom_of_lowers Calm.part (by simp) h hlowers

/-- Combinators that were lowered from calm and from steady elements are tame. -/
theorem tame_loweredFrom (hcarries : g.Carries callable program) :
    program.Tame (g.LoweredFrom callable g.Calm) (g.LoweredFrom callable g.Steady) where
  calm_unbranched := unbranched_loweredFrom hcarries (fun h => h.keeps _ .refl) Calm.part
    (by simp) (by simp) (by simp)
  steady_unbranched := unbranched_loweredFrom hcarries (fun h => h.spans _ .refl) Steady.part
    trivial trivial trivial
  terminal := by
    rintro decode body ⟨head, hhead, hcalm⟩
    cases hhead with
    | terminal hbody => exact (hcalm.terminals _ _ _ .refl).loweredFrom hbody
  steady_terminal := by
    rintro decode body ⟨head, hhead, hsteady⟩
    cases hhead with
    | terminal hbody => exact (hsteady.part (.marked trivial .refl)).loweredFrom hbody
  steady_drop := by
    rintro body ⟨head, hhead, hsteady⟩
    cases hhead with
    | drop hbody => exact (hsteady.part (.marked trivial .refl)).loweredFrom hbody

/-- Where a grammar has a program, the analysis has a root. -/
theorem exists_root_of_lower {root : Option String}
    (h : g.lower (g.analyze root).1 = .ok program) :
    ∃ name r, root = some name ∧ g.rule? name = some r := by
  cases hroot : root.bind g.rule? with
  | none =>
    simp only [analyze, hroot, lower] at h
    cases h
  | some r =>
    obtain ⟨name, hname, hrule⟩ := Option.bind_eq_some_iff.mp hroot
    exact ⟨name, r, hname, hrule⟩

/-- If the analysis says that the body of a definition does not vary, and the terminals in it are
steady, then any two matches of the rule for the definition contribute the same text and the same
nodes, apart from their places. Inputs, offsets and everything else about the runs may differ. -/
theorem same_output_of_matchesVariableText_eq_false {root : Option String} {d : Definition}
    {index : Nat} (hlower : g.lower (g.analyze root).1 = .ok program)
    (hd : d ∈ g.definitions) (hindex : (g.analyze root).1.callable[index]? = some d.id)
    (hvaries : g.matchesVariableText d.body = false) (hterminals : g.TerminalsSteady d.body) :
    ∃ rule, program.rule? ⟨index⟩ = some rule ∧ rule.name = d.name ∧
      d.body.lower d.errorLabel
        (g.lowerReference (g.analyze root).1.callable (g.size + 1) []) = .ok rule.body ∧
      ∀ (e e' : Setting) (budget budget' : Nat) (s s' : ParseState) (node node' : ParseTree),
        isBoundary e.input s.position = true → isBoundary e'.input s'.position = true →
        (Interpreter.eval e (Interpreter.call e program budget) rule.body s node).verdict =
          .matched →
        (Interpreter.eval e' (Interpreter.call e' program budget') rule.body s' node').verdict =
          .matched →
        ∃ text children children',
          (Interpreter.eval e (Interpreter.call e program budget) rule.body s node).node =
            node.append text children ∧
          (Interpreter.eval e' (Interpreter.call e' program budget') rule.body s' node').node =
            node'.append text children' ∧
          ParseTree.unplacedAll children = ParseTree.unplacedAll children' := by
  obtain ⟨name, r, rfl, hrule⟩ := exists_root_of_lower hlower
  have hcallable := (analyze_of_rule? hrule).2
  rw [hcallable] at hindex ⊢
  have hcarries : g.Carries (g.callableRules r.id) program := (carries_of_lower hrule hlower).1
  have hcount : (g.callableRules r.id).length ≤ maxRules :=
    (mapM_lowerRule_of_lower hrule hlower).2.2
  obtain ⟨rule, hfound, hname, hbody⟩ := exists_rule_of_lower hrule hlower hd hindex
  have hcalm : g.Calm d.body := ⟨fun _ hpart => branches_eq_false_of_keeps hvaries hpart,
    hterminals⟩
  have hlowered := hcalm.loweredFrom (lowers_of_lower (lowers_of_lowerReference hcount) hbody)
  refine ⟨rule, hfound, hname, hbody, ?_⟩
  intro e e' budget budget' s s' node node' hs hs' hmatched hmatched'
  exact Interpreter.same_output_of_calm (tame_loweredFrom hcarries) hlowered
    (Program.resolves_body hfound) hs hs' hmatched hmatched'

/-- The definition `@terminal D = "a" Gap "b";` with a dropped definition `Gap`. -/
def gapped (gap : Element) : Grammar where
  definitions :=
    [⟨0, .rule, "D", ⟨10, 11⟩, .marked ⟨0, 25⟩ (.terminal true) (.sequence ⟨14, 25⟩
        (.text ⟨14, 17⟩ "a") (.sequence ⟨18, 25⟩ (.reference ⟨18, 21⟩ "Gap")
          (.text ⟨22, 25⟩ "b"))), [], ⟨0, 26⟩⟩,
      ⟨1, .rule, "Gap", ⟨33, 36⟩, .marked ⟨27, 43⟩ .drop gap, [], ⟨27, 44⟩⟩]
  options := []
  numbered := rfl
  distinct := show (["D", "Gap"].map Text.LetterCase.lowerText).Nodup by decide

/-- The rule for `D`, whatever the gap is. -/
def gappedBody : Combinator :=
  .terminal true (.sequence (.literal "a") (.sequence (.call ⟨1⟩) (.literal "b")))

/-- The rules for `D` and for the gap. -/
def gappedRules (gap : Combinator) : List Rule :=
  [⟨"D", gappedBody, true⟩, ⟨"Gap", .drop gap, false⟩]

/-- The grammar whose gap is a blank that may be missing. -/
def openGap : Grammar :=
  gapped (.optional ⟨39, 43⟩ (.text ⟨39, 42⟩ " "))

/-- The program whose gap is a blank that may be missing. -/
def openGapProgram : Program :=
  ⟨gappedRules (.optional (.literal " ")), ⟨0⟩, by decide⟩

/-- The grammar whose gap is one blank. -/
def fixedGap : Grammar :=
  gapped (.text ⟨39, 42⟩ " ")

/-- The program whose gap is one blank. -/
def fixedGapProgram : Program :=
  ⟨gappedRules (.literal " "), ⟨0⟩, by decide⟩

/-- What the body of `D` does at an offset of an input. -/
def runGapped (program : Program) (input : String) (start : Nat) : Outcome :=
  let e : Setting := ⟨input.toList, .empty, 8⟩
  Interpreter.eval e (Interpreter.call e program 8) gappedBody
    { ParseState.initial with position := start } .empty

/-- The analysis calls the text of `D` fixed, but two matches of its rule have different texts. -/
theorem openGap_text_differs :
    openGap.lower (openGap.analyze (some "D")).1 = .ok openGapProgram ∧
      openGapProgram.rule? ⟨0⟩ = some ⟨"D", gappedBody, true⟩ ∧
      (openGap.analyze (some "D")).1.callable[0]? = some openGap.definitions[0].id ∧
      openGap.matchesVariableText openGap.definitions[0].body = false ∧
      (runGapped openGapProgram "ab" 0).verdict = .matched ∧
      (runGapped openGapProgram "ab" 0).node.text = "ab" ∧
      (runGapped openGapProgram "a b" 0).verdict = .matched ∧
      (runGapped openGapProgram "a b" 0).node.text = "a b" := by
  exact ⟨rfl, rfl, rfl, rfl, rfl, rfl, rfl, rfl⟩

/-- With one blank as its gap the terminal is steady. -/
theorem terminalsSteady_fixedGap : fixedGap.TerminalsSteady fixedGap.definitions[0].body := by
  intro s decode body hbody
  cases hbody with
  | refl =>
    refine ⟨fun part hpart => ?_⟩
    rcases hpart with _ | hpart | hpart
    · rfl
    · cases hpart
      rfl
    · rcases hpart with _ | hpart | hpart
      · rfl
      · rcases hpart with _ | _ | _ | _ | ⟨hfind, _, hpart⟩
        · rfl
        · cases hfind
          rcases hpart with _ | _ | _ | ⟨_, hpart⟩
          · rfl
          · cases hpart
            rfl
      · cases hpart
        rfl
  | marked _ hbody =>
    rcases hbody with _ | hbody | hbody
    · cases hbody
    · rcases hbody with _ | hbody | hbody
      · rcases hbody with _ | _ | _ | _ | ⟨hfind, _, hbody⟩
        cases hfind
        rcases hbody with _ | _ | _ | ⟨hkept, _⟩
        exact absurd rfl hkept
      · cases hbody

/-- A gap that is always one blank keeps the text of `D` the same, at the start of an input and
behind other characters. -/
theorem fixedGap_same_text :
    fixedGap.lower (fixedGap.analyze (some "D")).1 = .ok fixedGapProgram ∧
      fixedGap.matchesVariableText fixedGap.definitions[0].body = false ∧
      fixedGap.TerminalsSteady fixedGap.definitions[0].body ∧
      ∃ text children children',
        (runGapped fixedGapProgram "a b" 0).node = ParseTree.empty.append text children ∧
        (runGapped fixedGapProgram "--a b" 2).node = ParseTree.empty.append text children' ∧
        ParseTree.unplacedAll children = ParseTree.unplacedAll children' := by
  have hlower : fixedGap.lower (fixedGap.analyze (some "D")).1 = .ok fixedGapProgram := rfl
  have hvaries : fixedGap.matchesVariableText fixedGap.definitions[0].body = false := rfl
  have hindex : (fixedGap.analyze (some "D")).1.callable[0]? =
      some fixedGap.definitions[0].id := rfl
  obtain ⟨rule, hrule, _, _, hsame⟩ := same_output_of_matchesVariableText_eq_false hlower
    List.mem_cons_self hindex hvaries terminalsSteady_fixedGap
  cases hrule
  exact ⟨hlower, hvaries, terminalsSteady_fixedGap,
    hsame ⟨"a b".toList, .empty, 8⟩ ⟨"--a b".toList, .empty, 8⟩ 8 8 .initial
      { ParseState.initial with position := 2 } .empty .empty rfl rfl rfl rfl⟩

end Grammar

end Peg
