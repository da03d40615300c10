import Peg.Proofs.Code.Lowered
import Peg.Proofs.Grammar.Meaning
import Peg.Proofs.Parse.PatternTable
import Peg.Proofs.Parse.Yields

/-!
# Programs recognise what grammars mean

A combinator that was lowered from an element gives the same answers. One direction follows the
derivation of what the element means, the other one that of what the combinator recognises. Neither
follows the lowering itself, which may lead back to a definition through calls.
-/

namespace Peg

namespace Grammar

variable {g : Grammar} {callable : List Nat} {program : Program} {patterns : PatternTable}
  {input : List Char} {i : Nat} {r : Option Nat} {c : Combinator} {e : Element}

/-- An element answers as what it expands to. -/
theorem Expands.means {head : Element} (h : g.Expands e head)
    (hhead : head.Means g input i r) : e.Means g input i r := by
  induction h with
  | refl => exact hhead
  | reference hfind _ ih => exact .reference hfind (ih hhead)
  | inline _ ih => exact .marked (ih hhead)

/-- Whatever an element means is recognised by the combinator that it is lowered to. -/
theorem recognizes_of_means (hcarries : g.Carries callable program)
    (hcovers : ∀ rule ∈ program.rules, patterns.Covers rule.body)
    (hcompiled : patterns.WellCompiled) (h : e.Means g input i r)
    (hlowers : g.Lowers callable e c) (hc : patterns.Covers c) :
    Recognizes program patterns input c i r := by
  induction h generalizing c with
  | text hprefix =>
    rcases hlowers with ⟨⟨⟩, ⟨⟩⟩
    exact .literal hprefix
  | textFails hprefix =>
    rcases hlowers with ⟨⟨⟩, ⟨⟩⟩
    exact .literalFails hprefix
  | @regex s pattern times i automaton r hcompile hmatch =>
    rcases hlowers with ⟨⟨⟩, ⟨⟩⟩
    obtain ⟨id, hid, _⟩ :=
      hc (pattern, times) (by simp [Combinator.patterns, Combinator.preorder])
    exact .pattern hid ((hcompiled.matchAt_iff hid).mpr ⟨automaton, hcompile, hmatch⟩)
  | reference hfind hbody ih =>
    -- The reference is a call of the rule that carries its definition, or it was expanded.
    rcases hlowers with ⟨_ | ⟨hfind', hexpands⟩, hhead⟩
    · cases hhead with
      | call hfind' hindex =>
        cases hfind.symm.trans hfind'
        obtain ⟨rule, hrule, hlowers⟩ := hcarries (mem_of_find? hfind) hindex
        exact .call hrule (ih hlowers (hcovers rule (List.mem_of_getElem? hrule)))
    · cases hfind.symm.trans hfind'
      exact ih (.intro hexpands hhead) hc
  | sequence _ _ ihl ihr =>
    rcases hlowers with ⟨⟨⟩, hhead⟩
    cases hhead with
    | sequence hleft hright =>
      exact .sequence (ihl hleft (hc.operand (.head _)))
        (ihr hright (hc.operand (.tail _ (.head _))))
  | sequenceFails _ ih =>
    rcases hlowers with ⟨⟨⟩, hhead⟩
    cases hhead with
    | sequence hleft hright =>
      exact .sequenceFails (ih hleft (hc.operand (.head _)))
  | choiceLeft _ ih =>
    rcases hlowers with ⟨⟨⟩, hhead⟩
    cases hhead with
    | choice hleft hright =>
      exact .choiceLeft (ih hleft (hc.operand (.head _)))
  | choiceRight _ _ ihl ihr =>
    rcases hlowers with ⟨⟨⟩, hhead⟩
    cases hhead with
    | choice hleft hright =>
      exact .choiceRight (ihl hleft (hc.operand (.head _)))
        (ihr hright (hc.operand (.tail _ (.head _))))
  | optional _ ih =>
    rcases hlowers with ⟨⟨⟩, hhead⟩
    cases hhead with
    | optional hbody =>
      exact (ih hbody (hc.operand (.head _))).optional_matches
  | optionalSkips _ ih =>
    rcases hlowers with ⟨⟨⟩, hhead⟩
    cases hhead with
    | optional hbody =>
      exact (ih hbody (hc.operand (.head _))).optional_skips
  | zeroOrMoreEnds _ ih =>
    rcases hlowers with ⟨⟨⟩, hhead⟩
    cases hhead with
    | zeroOrMore hbody =>
      exact (ih hbody (hc.operand (.head _))).zeroOrMore_ends
  | zeroOrMoreIdles _ ih =>
    rcases hlowers with ⟨⟨⟩, hhead⟩
    cases hhead with
    | zeroOrMore hbody =>
      exact (ih hbody (hc.operand (.head _))).repetition_idles (Nat.zero_le 1)
  | zeroOrMore _ hne _ ihbody ihrest =>
    rcases hlowers with ⟨⟨⟩, hhead⟩
    cases hhead with
    | zeroOrMore hbody =>
      have hrest := ihrest (LowersHead.zeroOrMore hbody).lowers hc
      exact (ihbody hbody (hc.operand (.head _))).repetition_more hne hrest (Nat.zero_le 1)
  | oneOrMoreFails _ ih =>
    rcases hlowers with ⟨⟨⟩, hhead⟩
    cases hhead with
    | oneOrMore hbody =>
      exact (ih hbody (hc.operand (.head _))).oneOrMore_fails
  | oneOrMoreIdles _ ih =>
    rcases hlowers with ⟨⟨⟩, hhead⟩
    cases hhead with
    | oneOrMore hbody =>
      exact (ih hbody (hc.operand (.head _))).repetition_idles (Nat.le_refl 1)
  | oneOrMore _ hne _ ihbody ihrest =>
    rcases hlowers with ⟨⟨⟩, hhead⟩
    cases hhead with
    | oneOrMore hbody =>
      have hloop := (hc.operand (.head _)).repetition 0 none
      have hrest := ihrest (LowersHead.zeroOrMore hbody).lowers hloop
      exact (ihbody hbody (hc.operand (.head _))).repetition_more hne hrest (Nat.le_refl 1)
  | not _ ih =>
    rcases hlowers with ⟨⟨⟩, hhead⟩
    cases hhead with
    | not hbody =>
      exact .not (ih hbody (hc.operand (.head _)))
  | notFails _ ih =>
    rcases hlowers with ⟨⟨⟩, hhead⟩
    cases hhead with
    | not hbody =>
      exact .notFails (ih hbody (hc.operand (.head _)))
  | marked _ ih =>
    rcases hlowers with ⟨_ | _ | hexpands, hhead⟩
    · cases hhead with
      | drop hbody => exact .drop (ih hbody (hc.operand (.head _)))
      | terminal hbody =>
        exact .terminal (ih hbody (hc.operand (.head _)))
      | promoteError hbody =>
        exact .errorName (ih hbody (hc.operand (.head _)))
      | nameAsError hbody =>
        exact .errorName (ih hbody (hc.operand (.head _)))
    · exact ih (.intro hexpands hhead) hc

section Loops

variable {s : Span} {body : Element} {R : Nat → Option Nat → Prop} {count total j : Nat}
  (hbody : ∀ {i r}, R i r → body.Means g input i r)

include hbody

/-- The turns of a loop without a maximum are those of an element that is repeated. -/
theorem means_zeroOrMore (h : Turns R none count i total j) :
    (Element.zeroOrMore s body).Means g input i (some j) := by
  induction h with
  | full hfull =>
    obtain ⟨m, hm, _⟩ := hfull
    cases hm
  | failed _ hR => exact .zeroOrMoreEnds (hbody hR)
  | idle _ hR => exact .zeroOrMoreIdles (hbody hR)
  | further _ hR hne _ ih => exact .zeroOrMore (hbody hR) hne ih

/-- At least one turn of the body is a match of one or more. -/
theorem means_oneOrMore (h : Turns R none 0 i total j) (hmin : 1 ≤ total) :
    (Element.oneOrMore s body).Means g input i (some j) := by
  cases h with
  | full => cases hmin
  | failed => cases hmin
  | idle _ hR => exact .oneOrMoreIdles (hbody hR)
  | further _ hR hne hrest => exact .oneOrMore (hbody hR) hne (means_zeroOrMore hbody hrest)

/-- A loop that took no turn has met a failure of its body. -/
theorem means_oneOrMore_none (h : Turns R none 0 i total j) (hmin : total < 1) :
    (Element.oneOrMore s body).Means g input i none := by
  cases h with
  | full hfull =>
    obtain ⟨m, hm, _⟩ := hfull
    cases hm
  | failed _ hR => exact .oneOrMoreFails (hbody hR)
  | idle => omega
  | further _ _ _ hrest =>
    have htotal := hrest.le_total
    omega

/-- At most one turn of the body is a match of an optional element. -/
theorem means_optional (h : Turns R (some 1) 0 i total j) :
    (Element.optional s body).Means g input i (some j) := by
  cases h with
  | full hfull =>
    obtain ⟨m, hm, hle⟩ := hfull
    cases hm
    omega
  | failed _ hR => exact .optionalSkips (hbody hR)
  | idle _ hR => exact .optional (hbody hR)
  | further _ hR _ hrest =>
    have hfull : ¬ ∀ m ∈ some 1, 0 + 1 < m := fun hmore => by
      have hlt := hmore 1 rfl
      omega
    cases hrest with
    | full => exact .optional (hbody hR)
    | failed hmore => exact absurd hmore hfull
    | idle hmore => exact absurd hmore hfull
    | further hmore => exact absurd hmore hfull

end Loops

/-- Whatever a combinator recognises is meant by every element that is lowered to it. -/
theorem means_of_recognizes (hcarries : g.Carries callable program)
    (hcompiled : patterns.WellCompiled) (h : Recognizes program patterns input c i r)
    (hlowers : g.Lowers callable e c) : e.Means g input i r := by
  induction h generalizing e with
  | literal hprefix =>
    rcases hlowers with ⟨hexpands, ⟨⟩⟩
    exact hexpands.means (.text hprefix)
  | literalFails hprefix =>
    rcases hlowers with ⟨hexpands, ⟨⟩⟩
    exact hexpands.means (.textFails hprefix)
  | pattern hid hmatch =>
    rcases hlowers with ⟨hexpands, ⟨⟩⟩
    obtain ⟨automaton, hcompile, hautomaton⟩ := (hcompiled.matchAt_iff hid).mp hmatch
    exact hexpands.means (.regex hcompile hautomaton)
  | sequence _ _ ihl ihr =>
    rcases hlowers with ⟨hexpands, hhead⟩
    cases hhead with
    | sequence hleft hright => exact hexpands.means (.sequence (ihl hleft) (ihr hright))
  | sequenceFails _ ih =>
    rcases hlowers with ⟨hexpands, hhead⟩
    cases hhead with
    | sequence hleft hright => exact hexpands.means (.sequenceFails (ih hleft))
  | choiceLeft _ ih =>
    rcases hlowers with ⟨hexpands, hhead⟩
    cases hhead with
    | choice hleft hright => exact hexpands.means (.choiceLeft (ih hleft))
  | choiceRight _ _ ihl ihr =>
    rcases hlowers with ⟨hexpands, hhead⟩
    cases hhead with
    | choice hleft hright => exact hexpands.means (.choiceRight (ihl hleft) (ihr hright))
  | repetition _ hturns hmin ih =>
    rcases hlowers with ⟨hexpands, hhead⟩
    cases hhead with
    | optional hbody => exact hexpands.means (means_optional (fun hR => ih hR hbody) hturns)
    | zeroOrMore hbody => exact hexpands.means (means_zeroOrMore (fun hR => ih hR hbody) hturns)
    | oneOrMore hbody =>
      exact hexpands.means (means_oneOrMore (fun hR => ih hR hbody) hturns hmin)
  | repetitionFails _ hturns hmin ih =>
    rcases hlowers with ⟨hexpands, hhead⟩
    cases hhead with
    | optional => cases hmin
    | zeroOrMore => cases hmin
    | oneOrMore hbody =>
      exact hexpands.means (means_oneOrMore_none (fun hR => ih hR hbody) hturns hmin)
  | not _ ih =>
    rcases hlowers with ⟨hexpands, hhead⟩
    cases hhead with
    | not hbody => exact hexpands.means (.not (ih hbody))
  | notFails _ ih =>
    rcases hlowers with ⟨hexpands, hhead⟩
    cases hhead with
    | not hbody => exact hexpands.means (.notFails (ih hbody))
  | drop _ ih =>
    rcases hlowers with ⟨hexpands, hhead⟩
    cases hhead with
    | drop hbody => exact hexpands.means (.marked (ih hbody))
  | terminal _ ih =>
    rcases hlowers with ⟨hexpands, hhead⟩
    cases hhead with
    | terminal hbody => exact hexpands.means (.marked (ih hbody))
  | errorName _ ih =>
    rcases hlowers with ⟨hexpands, hhead⟩
    cases hhead with
    | promoteError hbody => exact hexpands.means (.marked (ih hbody))
    | nameAsError hbody => exact hexpands.means (.marked (ih hbody))
  | call hrule _ ih =>
    rcases hlowers with ⟨hexpands, hhead⟩
    cases hhead with
    | call hfind hindex =>
      obtain ⟨rule, hrule', hbody⟩ := hcarries (mem_of_find? hfind) hindex
      cases hrule.symm.trans hrule'
      exact hexpands.means (.reference hfind (ih hbody))

/-- The entry rule of a program recognises what the definition means that it carries. -/
theorem recognizes_entry_iff {i : Interpreter} {d : Definition} {k : Nat}
    (hcarries : g.Carries callable i.program) (hd : d ∈ g.definitions)
    (hentry : callable[i.program.entry.index]? = some d.id) :
    Recognizes i.program i.patterns input (.call i.program.entry) k r ↔
      d.body.Means g input k r := by
  obtain ⟨rule, hrule, hlowers⟩ := hcarries hd hentry
  have hcompiled := (PatternTable.ofPatterns_spec i.compiled).1
  constructor
  · intro hrec
    cases hrec with
    | call hrule' hbody =>
      cases hrule.symm.trans hrule'
      exact means_of_recognizes hcarries hcompiled hbody hlowers
  · intro hmeans
    exact .call hrule (recognizes_of_means hcarries i.covers_of_mem hcompiled hmeans hlowers
      (i.covers_of_mem rule (List.mem_of_getElem? hrule)))

/-- A program that was lowered from a grammar yields what the body of the root means, and nothing
else. It does so under every limit on nested calls that is large enough, on each input for which the
body has a meaning. -/
theorem lower_preserves_meaning {g : Grammar} {root : String} {d : Definition} {program : Program}
    (hroot : g.rule? root = some d) (hlower : g.lower (g.analyze (some root)).1 = .ok program) :
    (∀ (i : Interpreter) (input : List Char), i.program = program →
      (∀ error, i.parseFrom program.entry input ≠ .error error) →
      ∃ r, i.Yields program.entry input r ∧ ∀ r', d.body.Means g input 0 r' ↔ r' = r) ∧
    ∀ (input : List Char) (r : Option Nat), d.body.Means g input 0 r →
      ∃ least, ∀ i : Interpreter, i.program = program → least ≤ i.limit →
        i.Yields program.entry input r := by
  obtain ⟨hcarries, hentry⟩ := carries_of_lower hroot hlower
  have hd : d ∈ g.definitions := mem_of_rule? hroot
  have hrule := Program.isSome_rule?_entry program
  constructor
  · rintro i input rfl hends
    obtain ⟨r, hyields, hrec⟩ := i.exists_yields hrule hends
    have hmeans := (recognizes_entry_iff hcarries hd hentry).mp hrec
    refine ⟨r, hyields, fun r' => ⟨fun hmeans' => hmeans'.unique hmeans, ?_⟩⟩
    rintro rfl
    exact hmeans
  · intro input r hmeans
    -- The limit may depend on the patterns, which are the same for all interpreters of the program.
    by_cases hexists : ∃ i : Interpreter, i.program = program
    · obtain ⟨first, rfl⟩ := hexists
      have hrec := (recognizes_entry_iff hcarries hd hentry).mpr hmeans
      obtain ⟨least, hyields⟩ := Interpreter.exists_limit_yields hrule hrec
      refine ⟨least, fun i hprogram hlimit => hyields i hprogram ?_ hlimit⟩
      have hcompiled := i.compiled
      rw [hprogram, first.compiled] at hcompiled
      exact (Except.ok.inj hcompiled).symm
    · exact ⟨0, fun i hprogram => absurd ⟨i, hprogram⟩ hexists⟩

/-- Letters `a`, each of them by way of an inline definition, and then a `c`. -/
def lettersThenC : Grammar where
  definitions :=
    [⟨0, .rule, "S", ⟨0, 1⟩, .choice ⟨4, 13⟩ (.sequence ⟨4, 7⟩ (.reference ⟨4, 5⟩ "A")
        (.reference ⟨6, 7⟩ "S")) (.text ⟨10, 13⟩ "c"), [], ⟨0, 13⟩⟩,
      ⟨1, .rule, "A", ⟨22, 23⟩, .marked ⟨14, 29⟩ .inline (.text ⟨26, 29⟩ "a"), [], ⟨14, 29⟩⟩]
  options := []
  numbered := rfl
  distinct := show (["S", "A"].map Text.LetterCase.lowerText).Nodup by decide

/-- The program for these letters, with the inline definition expanded. -/
def lettersThenCParser : Interpreter where
  program := ⟨[⟨"S", .choice (.sequence (.literal "a") (.call ⟨0⟩)) (.literal "c"), true⟩], ⟨0⟩,
    by decide⟩
  patterns := .empty
  limit := 8
  compiled := rfl

/-- On `aac` the grammar means a match of everything, and that is what the program yields. -/
theorem lettersThenC_means_aac :
    lettersThenC.rule? "S" = some lettersThenC.definitions[0] ∧
      lettersThenC.lower (lettersThenC.analyze (some "S")).1 = .ok lettersThenCParser.program ∧
      (∀ r, lettersThenC.definitions[0].body.Means lettersThenC "aac".toList 0 r ↔ r = some 3) ∧
      ∃ least, ∀ i : Interpreter, i.program = lettersThenCParser.program → least ≤ i.limit →
        i.Yields ⟨0⟩ "aac".toList (some 3) := by
  have hroot : lettersThenC.rule? "S" = some lettersThenC.definitions[0] := rfl
  have hlower : lettersThenC.lower (lettersThenC.analyze (some "S")).1 =
      .ok lettersThenCParser.program := rfl
  obtain ⟨hexact, hcomplete⟩ := lower_preserves_meaning hroot hlower
  have hends : ∀ error, lettersThenCParser.parseFrom ⟨0⟩ "aac".toList ≠ .error error := by
    intro error herror
    cases herror
  obtain ⟨r, ⟨hanswers, _⟩, honly⟩ := hexact lettersThenCParser "aac".toList rfl hends
  have hmatched : (lettersThenCParser.outcome ⟨0⟩ "aac".toList).verdict = .matched := rfl
  cases r with
  | none => exact absurd (hmatched.symm.trans hanswers.1) (by simp)
  | some j =>
    obtain rfl : 3 = j := hanswers.2
    exact ⟨hroot, hlower, honly, hcomplete _ _ ((honly _).mpr rfl)⟩

end Grammar

end Peg
