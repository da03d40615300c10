import Mathlib.Logic.Relation
import Peg.Proofs.Code.LoweringExact
import Peg.Proofs.Code.MeaningPreserved
import Peg.Proofs.Grammar.RepeatCounts
import Peg.Proofs.Highlight.PrintedForm

/-!
# Highlighting covers what the parser matches

A parser and a pattern are made from the same definitions in different ways. A loop of the parser
never gives back what it has matched, and a loop of the pattern may stop anywhere, so the parser has
fewer matches. Without choices and lookaheads, each of them is a match of the pattern.
-/

namespace Peg

open Peg.Text

namespace ScopedPattern

/-- A pattern relates the offset of a match to the offset where the match may end. The regular
expressions of the author are taken to match what a parser matches with them, and groups do not
matter. -/
def Relates (input : List Char) : ScopedPattern → Nat → Nat → Prop
  | .literal text, i, j => text.toList <+: dropBytes input i ∧ j = i + byteLength text.toList
  | .regex source times, i, j => ∃ automaton,
      Regex.compile (PatternTable.repeatedSource source times) = .ok automaton ∧
        automaton.matchAt input i = .ok (some j)
  | .sequence left right, i, k => ∃ j, left.Relates input i j ∧ right.Relates input j k
  | .repeated .optional body, i, j => i = j ∨ body.Relates input i j
  | .repeated .zeroOrMore body, i, j => Relation.ReflTransGen (body.Relates input) i j
  | .repeated .oneOrMore body, i, j => Relation.TransGen (body.Relates input) i j
  | .notAhead body, i, j => i = j ∧ ∀ k, ¬ body.Relates input i k
  | .group body, i, j | .capture _ body, i, j => body.Relates input i j

end ScopedPattern

namespace Grammar

/-- The unfolding of an element through its references comes to an end, and it is made of texts,
regular expressions, sequences and repetitions only. -/
inductive UnfoldsPlainly (g : Grammar) : Element → Prop where
  | text {s : Span} {content : String} : g.UnfoldsPlainly (.text s content)
  | regex {s : Span} {pattern : String} {times : Nat} : g.UnfoldsPlainly (.regex s pattern times)
  | reference {s : Span} {name : String} {d : Definition} : g.find? name = some d →
      g.UnfoldsPlainly d.body → g.UnfoldsPlainly (.reference s name)
  | sequence {s : Span} {left right : Element} : g.UnfoldsPlainly left → g.UnfoldsPlainly right →
      g.UnfoldsPlainly (.sequence s left right)
  | optional {s : Span} {body : Element} : g.UnfoldsPlainly body →
      g.UnfoldsPlainly (.optional s body)
  | zeroOrMore {s : Span} {body : Element} : g.UnfoldsPlainly body →
      g.UnfoldsPlainly (.zeroOrMore s body)
  | oneOrMore {s : Span} {body : Element} : g.UnfoldsPlainly body →
      g.UnfoldsPlainly (.oneOrMore s body)
  | marked {s : Span} {marker : Marker} {body : Element} : g.UnfoldsPlainly body →
      g.UnfoldsPlainly (.marked s marker body)

variable {g : Grammar} {suffix : Option String} {d t : Definition} {e : Element}
  {p : ScopedPattern} {r : Reference} {rule : String} {budget root : Nat} {expanding : List Nat}

/-- The pattern of a reference encloses the pattern of the body of its definition. -/
theorem exists_body_of_deriveReference
    (h : g.deriveReference suffix budget expanding r = .ok p) (hfind : g.find? r.name = some d) :
    ∃ less body, d.body.derive d.name (g.deriveReference suffix less (d.id :: expanding)) =
      .ok body ∧ p = d.enclose suffix body := by
  cases budget with
  | zero => cases h
  | succ budget =>
    simp only [deriveReference, hfind] at h
    split at h
    · cases h
    · obtain ⟨body, hbody, h⟩ := bind_eq_ok_iff.mp h
      cases h
      exact ⟨budget, body, hbody, rfl⟩

/-- What encloses the pattern of a definition adds no pattern of the author. -/
theorem isPlain_enclose : (d.enclose suffix p).IsPlain ↔ p.IsPlain := by
  unfold Definition.enclose
  split
  · rfl
  · split
    · rfl
    · rfl

/-- What encloses the pattern of a definition does not change what it matches. -/
theorem relates_enclose {input : List Char} {i j : Nat} :
    (d.enclose suffix p).Relates input i j ↔ p.Relates input i j := by
  unfold Definition.enclose
  split
  · rfl
  · split
    · rfl
    · rfl

/-- The definition behind a reference goes into the parser if the reference does. -/
theorem Used.reference (hroot : root < g.size) (h : g.Used (g.callableRules root) d)
    (hr : r ∈ d.body.references) (hfind : g.find? r.name = some t) (hkind : t.kind = .rule) :
    g.Used (g.callableRules root) t := by
  by_cases hcall : t.id ∈ g.callableRules root
  · exact .called (mem_of_find? hfind) hcall
  · exact .spliced h (h.splices hroot hr hfind hkind hcall)

/-- All regular expressions in the pattern of a definition are well-formed, and applied at least
once, if the definition goes into a parser. -/
theorem isPlain_of_derive (hroot : root < g.size)
    (hexpandable : g.Expandable (g.callableRules root)) (hcounts : g.CountsFit)
    (hplain : g.UnfoldsPlainly e) (hcount : e.CountsFit)
    (hsupported : ∀ part ∈ e.parts, part.IsSupported)
    (hused : ∀ r ∈ e.references, ∀ t, g.find? r.name = some t → g.Used (g.callableRules root) t)
    (h : e.derive rule (g.deriveReference suffix budget expanding) = .ok p) : p.IsPlain := by
  induction hplain generalizing rule budget expanding p with
  | text =>
    cases h
    trivial
  | regex =>
    cases h
    exact ⟨hcount.1, hsupported _ List.mem_cons_self⟩
  | @reference s name d hfind _ ih =>
    obtain ⟨less, body, hbody, rfl⟩ := exists_body_of_deriveReference h hfind
    have hd := hused ⟨name, s⟩ (by simp [Element.references]) d hfind
    refine isPlain_enclose.mpr (ih (hcounts d (mem_of_find? hfind))
      (hexpandable.lowerable d hd).supported ?_ hbody)
    intro r hr t hfind'
    obtain ⟨t', hfind'', hkind⟩ := (hexpandable.lowerable d hd).rules r hr
    cases hfind'.symm.trans hfind''
    exact hd.reference hroot hr hfind' hkind
  | sequence _ _ ihl ihr =>
    simp only [Element.parts, Element.references, List.forall_mem_cons,
      List.forall_mem_append] at hsupported hused
    simp only [Element.derive, bind_eq_ok_iff] at h
    obtain ⟨l, hl, r, hr, h⟩ := h
    cases h
    exact ⟨ihl hcount.1 hsupported.2.1 hused.1 hl, ihr hcount.2 hsupported.2.2 hused.2 hr⟩
  | optional _ ih | zeroOrMore _ ih | oneOrMore _ ih =>
    simp only [Element.parts, Element.references, List.forall_mem_cons] at hsupported hused
    simp only [Element.derive, bind_eq_ok_iff] at h
    obtain ⟨b, hb, h⟩ := h
    cases h
    have hbody := ih hcount hsupported.2 hused hb
    exact hbody
  | marked _ ih =>
    simp only [Element.parts, Element.references, List.forall_mem_cons] at hsupported hused
    exact ih hcount hsupported.2 hused h

/-- The turns of a loop are turns of a loop that may stop anywhere. -/
theorem reflTransGen_of_means {R : Nat → Nat → Prop} {input : List Char} {s : Span}
    {body : Element} {i k : Nat} (hbody : ∀ {i j}, body.Means g input i (some j) → R i j)
    (h : (Element.zeroOrMore s body).Means g input i (some k)) : Relation.ReflTransGen R i k := by
  -- The induction is on the turns, and the loop stays the same from turn to turn.
  generalize hloop : Element.zeroOrMore s body = e at h
  generalize hr : some k = r at h
  induction h with
  | zeroOrMoreEnds =>
    cases hr
    exact .refl
  | zeroOrMoreIdles =>
    cases hr
    exact .refl
  | zeroOrMore hturn _ _ _ ih =>
    cases hloop
    exact .head (hbody hturn) (ih rfl hr)
  | _ => cases hloop

/-- Where an element with a plain unfolding matches, so does the pattern that is derived from it. -/
theorem relates_of_means {input : List Char} {i j : Nat} (hplain : g.UnfoldsPlainly e)
    (h : e.derive rule (g.deriveReference suffix budget expanding) = .ok p)
    (hmeans : e.Means g input i (some j)) : p.Relates input i j := by
  -- The pattern is built along the unfolding, and a meaning can be taken apart along it as well.
  induction hplain generalizing rule budget expanding p i j with
  | text =>
    cases h
    cases hmeans with
    | text hfound => exact ⟨hfound, rfl⟩
  | regex =>
    cases h
    cases hmeans with
    | regex hcompile hmatch => exact ⟨_, hcompile, hmatch⟩
  | @reference s name d hfind _ ih =>
    obtain ⟨less, body, hbody, rfl⟩ := exists_body_of_deriveReference h hfind
    cases hmeans with
    | reference hfind' hinside =>
      cases hfind.symm.trans hfind'
      exact relates_enclose.mpr (ih hbody hinside)
  | sequence _ _ ihl ihr =>
    simp only [Element.derive, bind_eq_ok_iff] at h
    obtain ⟨l, hl, r, hr, h⟩ := h
    cases h
    cases hmeans with
    | sequence hleft hright => exact ⟨_, ihl hl hleft, ihr hr hright⟩
  | optional _ ih =>
    simp only [Element.derive, bind_eq_ok_iff] at h
    obtain ⟨b, hb, h⟩ := h
    cases h
    cases hmeans with
    | optional hbody => exact Or.inr (ih hb hbody)
    | optionalSkips => exact Or.inl rfl
  | zeroOrMore _ ih =>
    simp only [Element.derive, bind_eq_ok_iff] at h
    obtain ⟨b, hb, h⟩ := h
    cases h
    exact reflTransGen_of_means (ih hb) hmeans
  | oneOrMore _ ih =>
    simp only [Element.derive, bind_eq_ok_iff] at h
    obtain ⟨b, hb, h⟩ := h
    cases h
    cases hmeans with
    | oneOrMoreIdles hbody => exact .single (ih hb hbody)
    | oneOrMore hbody _ hrest => exact .head' (ih hb hbody) (reflTransGen_of_means (ih hb) hrest)
  | marked _ ih =>
    cases hmeans with
    | marked hbody => exact ih h hbody

/-- The pattern of a definition as one unit is the pattern of its body in a group. -/
theorem exists_body_of_deriveScoped (h : g.deriveScoped suffix d = .ok p) :
    ∃ body, g.deriveBody suffix d = .ok body ∧
      (p = .group body ∨ ∃ scope, p = .capture scope body) := by
  obtain ⟨body, hbody, h⟩ := bind_eq_ok_iff.mp h
  split at h
  next scope _ =>
    cases h
    exact ⟨body, hbody, Or.inr ⟨scope, rfl⟩⟩
  · cases h
    exact ⟨body, hbody, Or.inl rfl⟩

/-- A program is lowered from a grammar with a rule as its root. -/
theorem exists_rule?_of_lower {root : Option String} {program : Program}
    (h : g.lower (g.analyze root).1 = .ok program) :
    ∃ name r, root = some name ∧ g.rule? name = some r := by
  cases hrule : root.bind g.rule? with
  | none =>
    simp only [analyze, hrule, lower] at h
    cases h
  | some r =>
    obtain ⟨name, rfl, hname⟩ := Option.bind_eq_some_iff.mp hrule
    exact ⟨name, r, rfl, hname⟩

/-- The pattern of the body of a definition that the parser calls is plain. -/
theorem isPlain_of_deriveBody {name : String} {program : Program} {r : Definition}
    (hroot : g.rule? name = some r) (hlower : g.lower (g.analyze (some name)).1 = .ok program)
    (hcounts : g.CountsFit) (hd : d ∈ g.definitions) (hmem : d.id ∈ g.callableRules r.id)
    (hplain : g.UnfoldsPlainly d.body) (h : g.deriveBody suffix d = .ok p) : p.IsPlain := by
  have hlt : r.id < g.size := id_lt_size (mem_of_rule? hroot)
  obtain ⟨hrules, _, _⟩ := mapM_lowerRule_of_lower hroot hlower
  have hcallable := (analyze_of_rule? hroot).2
  rw [← hcallable] at hrules
  have hexpandable := (exists_mapM_lowerRule_iff hlt hcallable).mp ⟨_, hrules⟩
  rw [hcallable] at hexpandable
  have hused : g.Used (g.callableRules r.id) d := .called hd hmem
  have hlowerable := hexpandable.lowerable d hused
  refine isPlain_of_derive hlt hexpandable hcounts hplain (hcounts d hd) hlowerable.supported ?_ h
  intro ref href t hfind
  obtain ⟨t', hfind', hkind⟩ := hlowerable.rules ref href
  cases hfind.symm.trans hfind'
  exact hused.reference hlt href hfind hkind

/-- Where the rule of a definition matches, the body of the definition means that match. -/
theorem means_of_matched {callable : List Nat} {i : Interpreter} {input : List Char}
    (hcarries : g.Carries callable i.program) {id : RuleId} {rule : Rule}
    (hrule : i.program.rule? id = some rule) (hlowers : g.Lowers callable e rule.body)
    {budget : Nat} {s : ParseState} {node : ParseTree} (hs : isBoundary input s.position = true)
    (hmatched :
      (Interpreter.call (i.setting input) i.program budget id s node).verdict = .matched) :
    e.Means g input s.position
      (some (Interpreter.call (i.setting input) i.program budget id s node).state.position) := by
  have hid : (i.program.rule? id).isSome = true := by simp [hrule]
  have hfollows :=
    (Interpreter.compositional_follows (i.setting input) i.program).call_run budget hid
  have hcompiled := (PatternTable.ofPatterns_spec i.compiled).1
  cases hfollows.recognizes hs hmatched with
  | call hrule' hinside =>
    cases hrule.symm.trans hrule'
    exact means_of_recognizes hcarries hcompiled hinside hlowers

/-- For a definition with a plain unfolding that has a rule in the parser, the derived pattern is
written as the rules of precedence have it, and it relates the two ends of every match of the rule:
no text that the parser accepts for the definition is missed by the highlighting. The repeat counts
have to be positive in what is written, as they are in every grammar that is read from a tree. -/
theorem derived_pattern_covers_matches {root : Option String} {program : Program}
    (hlower : g.lower (g.analyze root).1 = .ok program) (hd : d ∈ g.definitions)
    (hcallable : (g.analyze root).1.isCallable d.id = true) (hplain : g.UnfoldsPlainly d.body)
    (hderive : g.deriveScoped suffix d = .ok p) :
    (g.CountsFit → p.Written .unit p.render.toList) ∧
      ∃ id rule, program.rule? id = some rule ∧ rule.name = d.name ∧
        ∀ (i : Interpreter) (input : List Char) (budget : Nat) (s : ParseState)
          (node : ParseTree), i.program = program → isBoundary input s.position = true →
          (Interpreter.call (i.setting input) program budget id s node).verdict = .matched →
          p.Relates input s.position
            (Interpreter.call (i.setting input) program budget id s node).state.position := by
  obtain ⟨name, r, rfl, hroot⟩ := exists_rule?_of_lower hlower
  rw [Analysis.isCallable, (analyze_of_rule? hroot).2] at hcallable
  have hmem : d.id ∈ g.callableRules r.id := List.contains_iff_mem.mp hcallable
  obtain ⟨body, hbody, hp⟩ := exists_body_of_deriveScoped hderive
  constructor
  · intro hcounts
    obtain ⟨b, _, hwritten⟩ :=
      (isPlain_of_deriveBody hroot hlower hcounts hd hmem hplain hbody).written_render
    rcases hp with rfl | ⟨scope, rfl⟩
    · exact ScopedPattern.written_group hwritten
    · exact ScopedPattern.written_capture hwritten scope
  · obtain ⟨index, hindex⟩ := List.getElem?_of_mem hmem
    obtain ⟨rule, hrule, hname, _⟩ := exists_rule_of_lower hroot hlower hd hindex
    obtain ⟨hcarries, _⟩ := carries_of_lower hroot hlower
    obtain ⟨rule', hrule', hlowers⟩ := hcarries hd hindex
    cases hrule.symm.trans hrule'
    refine ⟨⟨index⟩, rule, hrule, hname, ?_⟩
    rintro i input budget s node rfl hs hmatched
    have hmeans := means_of_matched hcarries hrule hlowers hs hmatched
    have hrelates := relates_of_means hplain hbody hmeans
    rcases hp with rfl | ⟨scope, rfl⟩
    · exact hrelates
    · exact hrelates

/-- Pairs with commas between them. A pair is a choice that the author wrote, two times in a row,
and it has a scope. -/
def pairList : Grammar where
  definitions :=
    [⟨0, .rule, "Pairs", ⟨0, 5⟩, .sequence ⟨8, 26⟩ (.reference ⟨8, 12⟩ "Pair")
        (.zeroOrMore ⟨13, 26⟩ (.sequence ⟨14, 24⟩ (.text ⟨14, 17⟩ ",")
          (.reference ⟨18, 22⟩ "Pair"))), [], ⟨0, 27⟩⟩,
      ⟨1, .rule, "Pair", ⟨28, 32⟩, .regex ⟨35, 44⟩ "xy|z" 2,
        [⟨"scope", ⟨46, 51⟩, .text "string", ⟨46, 62⟩⟩], ⟨28, 64⟩⟩]
  options := []
  numbered := rfl
  distinct := show (["Pairs", "Pair"].map Text.LetterCase.lowerText).Nodup by decide

/-- The parser for pairs. -/
def pairListParser : Interpreter where
  program :=
    ⟨[⟨"Pairs", .sequence (.call ⟨1⟩) (.zeroOrMore (.sequence (.literal ",") (.call ⟨1⟩))), true⟩,
      ⟨"Pair", .pattern "xy|z" 2, true⟩], ⟨0⟩, by decide⟩
  patterns := (PatternTable.ofPatterns [("xy|z", 2)]).toOption.getD .empty
  limit := 8
  compiled := rfl

/-- The pattern of a pair, with its scope. -/
def pairPattern : ScopedPattern :=
  .capture "string" (.regex "xy|z" 2)

/-- The pattern of a list of pairs, which has no scope of its own. -/
def pairListPattern : ScopedPattern :=
  .group (.sequence pairPattern (.repeated .zeroOrMore (.sequence (.literal ",") pairPattern)))

/-- The parser matches two pairs at the start of `zz,xyz,x`, and so does the pattern. -/
theorem pairList_covered :
    pairList.lower (pairList.analyze (some "Pairs")).1 = .ok pairListParser.program ∧
      pairList.definitions[0] ∈ pairList.definitions ∧
      (pairList.analyze (some "Pairs")).1.isCallable 0 = true ∧
      pairList.UnfoldsPlainly pairList.definitions[0].body ∧ pairList.CountsFit ∧
      pairList.deriveScoped none pairList.definitions[0] = .ok pairListPattern ∧
      pairListPattern.Written .unit "(?:((?:xy|z)\x7b2\x7d)(?:,((?:xy|z)\x7b2\x7d))*)".toList ∧
      isBoundary "zz,xyz,x".toList ParseState.initial.position = true ∧
      (pairListParser.outcome ⟨0⟩ "zz,xyz,x".toList).Answers 0 (some 6) ∧
      pairListPattern.Relates "zz,xyz,x".toList 0 6 := by
  have hlower : pairList.lower (pairList.analyze (some "Pairs")).1 = .ok pairListParser.program :=
    rfl
  have hd : pairList.definitions[0] ∈ pairList.definitions := List.mem_cons_self
  have hcallable : (pairList.analyze (some "Pairs")).1.isCallable pairList.definitions[0].id =
      true := rfl
  have hpair : ∀ s, pairList.UnfoldsPlainly (.reference s "Pair") := fun _ =>
    .reference (d := pairList.definitions[1]) rfl .regex
  have hplain : pairList.UnfoldsPlainly pairList.definitions[0].body :=
    .sequence (hpair _) (.zeroOrMore (.sequence .text (hpair _)))
  have hderive : pairList.deriveScoped none pairList.definitions[0] = .ok pairListPattern := rfl
  have hcounts : pairList.CountsFit := by
    intro d hd
    simp only [pairList, List.mem_cons, List.not_mem_nil, or_false] at hd
    rcases hd with rfl | rfl
    · exact ⟨trivial, trivial, trivial⟩
    · exact ⟨by decide, by decide⟩
  have hstart : isBoundary "zz,xyz,x".toList ParseState.initial.position = true := rfl
  have hanswers : (pairListParser.outcome ⟨0⟩ "zz,xyz,x".toList).Answers 0 (some 6) :=
    ⟨by decide +kernel, by decide +kernel⟩
  obtain ⟨hwritten, id, rule, hrule, hname, hcovers⟩ :=
    derived_pattern_covers_matches hlower hd hcallable hplain hderive
  have hrender : pairListPattern.render =
      "(?:((?:xy|z)\x7b2\x7d)(?:,((?:xy|z)\x7b2\x7d))*)" := by decide +kernel
  specialize hwritten hcounts
  rw [hrender] at hwritten
  obtain rfl : id = ⟨0⟩ := by
    obtain ⟨index⟩ := id
    match index with
    | 0 => rfl
    | 1 =>
      cases hrule
      exact absurd hname (by decide)
    | index + 2 => cases hrule
  have hrelates := hcovers pairListParser "zz,xyz,x".toList 8 .initial .empty rfl hstart hanswers.1
  have hstop : (Interpreter.call (pairListParser.setting "zz,xyz,x".toList) pairListParser.program 8
      ⟨0⟩ .initial .empty).state.position = 6 := hanswers.2
  rw [hstop] at hrelates
  exact ⟨hlower, hd, hcallable, hplain, hcounts, hderive, hwritten, hstart, hanswers, hrelates⟩

end Grammar

end Peg
