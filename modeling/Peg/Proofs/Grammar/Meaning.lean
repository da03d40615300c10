import Peg.Grammar
import Peg.Parse.PatternTable

/-!
# What an element means

The meaning of elements as parsing expressions, read from the definitions of a grammar alone. A
reference means the body of the definition that it names, whether that is inline or not, and markers
do not matter for what is matched.
-/

namespace Peg

open Peg.Text

namespace Element

/-- The answer of an element at an offset of the input: the offset up to which it matches, or
nothing if it fails. A loop ends where its body fails or matches without consuming anything. -/
inductive Means (g : Grammar) (input : List Char) : Element → Nat → Option Nat → Prop where
  | text {s : Span} {content : String} {i : Nat} : content.toList <+: dropBytes input i →
      Means g input (.text s content) i (some (i + byteLength content.toList))
  | textFails {s : Span} {content : String} {i : Nat} : ¬ content.toList <+: dropBytes input i →
      Means g input (.text s content) i none
  | regex {s : Span} {pattern : String} {times i : Nat} {automaton : Regex.Automaton}
      {r : Option Nat} :
      Regex.compile (PatternTable.repeatedSource pattern times) = .ok automaton →
      automaton.matchAt input i = .ok r → Means g input (.regex s pattern times) i r
  | reference {s : Span} {name : String} {d : Definition} {i : Nat} {r : Option Nat} :
      g.find? name = some d → Means g input d.body i r → Means g input (.reference s name) i r
  | sequence {s : Span} {left right : Element} {i j : Nat} {r : Option Nat} :
      Means g input left i (some j) → Means g input right j r →
      Means g input (.sequence s left right) i r
  | sequenceFails {s : Span} {left right : Element} {i : Nat} : Means g input left i none →
      Means g input (.sequence s left right) i none
  | choiceLeft {s : Span} {left right : Element} {i j : Nat} : Means g input left i (some j) →
      Means g input (.choice s left right) i (some j)
  | choiceRight {s : Span} {left right : Element} {i : Nat} {r : Option Nat} :
      Means g input left i none → Means g input right i r →
      Means g input (.choice s left right) i r
  | optional {s : Span} {body : Element} {i j : Nat} : Means g input body i (some j) →
      Means g input (.optional s body) i (some j)
  | optionalSkips {s : Span} {body : Element} {i : Nat} : Means g input body i none →
      Means g input (.optional s body) i (some i)
  | zeroOrMoreEnds {s : Span} {body : Element} {i : Nat} : Means g input body i none →
      Means g input (.zeroOrMore s body) i (some i)
  | zeroOrMoreIdles {s : Span} {body : Element} {i : Nat} : Means g input body i (some i) →
      Means g input (.zeroOrMore s body) i (some i)
  | zeroOrMore {s : Span} {body : Element} {i j k : Nat} : Means g input body i (some j) →
      j ≠ i → Means g input (.zeroOrMore s body) j (some k) →
      Means g input (.zeroOrMore s body) i (some k)
  | oneOrMoreFails {s : Span} {body : Element} {i : Nat} : Means g input body i none →
      Means g input (.oneOrMore s body) i none
  | oneOrMoreIdles {s : Span} {body : Element} {i : Nat} : Means g input body i (some i) →
      Means g input (.oneOrMore s body) i (some i)
  | oneOrMore {s : Span} {body : Element} {i j k : Nat} : Means g input body i (some j) →
      j ≠ i → Means g input (.zeroOrMore s body) j (some k) →
      Means g input (.oneOrMore s body) i (some k)
  | not {s : Span} {body : Element} {i : Nat} : Means g input body i none →
      Means g input (.not s body) i (some i)
  | notFails {s : Span} {body : Element} {i j : Nat} : Means g input body i (some j) →
      Means g input (.not s body) i none
  | marked {s : Span} {marker : Marker} {body : Element} {i : Nat} {r : Option Nat} :
      Means g input body i r → Means g input (.marked s marker body) i r

variable {g : Grammar} {input : List Char} {e : Element}

/-- An element has at most one answer at an offset. -/
theorem Means.unique {i : Nat} {r r' : Option Nat} (h : e.Means g input i r)
    (h' : e.Means g input i r') : r = r' := by
  induction h generalizing r' with
  | text hprefix =>
    cases h' with
    | text => rfl
    | textFails hnot => exact absurd hprefix hnot
  | textFails hnot =>
    cases h' with
    | text hprefix => exact absurd hprefix hnot
    | textFails => rfl
  | regex hcompile hmatch =>
    cases h' with
    | regex hcompile' hmatch' =>
      cases hcompile.symm.trans hcompile'
      exact Except.ok.inj (hmatch.symm.trans hmatch')
  | reference hfind _ ih =>
    cases h' with
    | reference hfind' hbody =>
      cases hfind.symm.trans hfind'
      exact ih hbody
  | sequence _ _ ihl ihr =>
    cases h' with
    | sequence hleft hright =>
      cases ihl hleft
      exact ihr hright
    | sequenceFails hleft => cases ihl hleft
  | sequenceFails _ ih =>
    cases h' with
    | sequence hleft _ => cases ih hleft
    | sequenceFails => rfl
  | choiceLeft _ ih =>
    cases h' with
    | choiceLeft hleft => exact ih hleft
    | choiceRight hleft _ => cases ih hleft
  | choiceRight _ _ ihl ihr =>
    cases h' with
    | choiceLeft hleft => cases ihl hleft
    | choiceRight _ hright => exact ihr hright
  | optional _ ih =>
    cases h' with
    | optional hbody => exact ih hbody
    | optionalSkips hbody => cases ih hbody
  | optionalSkips _ ih =>
    cases h' with
    | optional hbody => cases ih hbody
    | optionalSkips => rfl
  | zeroOrMoreEnds _ ih =>
    cases h' with
    | zeroOrMoreEnds => rfl
    | zeroOrMoreIdles hbody => cases ih hbody
    | zeroOrMore hbody _ _ => cases ih hbody
  | zeroOrMoreIdles _ ih =>
    cases h' with
    | zeroOrMoreEnds hbody => cases ih hbody
    | zeroOrMoreIdles => rfl
    | zeroOrMore hbody hne _ => exact absurd (Option.some.inj (ih hbody)).symm hne
  | zeroOrMore _ hne _ ihbody ihrest =>
    cases h' with
    | zeroOrMoreEnds hbody => cases ihbody hbody
    | zeroOrMoreIdles hbody => exact absurd (Option.some.inj (ihbody hbody)) hne
    | zeroOrMore hbody _ hrest =>
      cases ihbody hbody
      exact ihrest hrest
  | oneOrMoreFails _ ih =>
    cases h' with
    | oneOrMoreFails => rfl
    | oneOrMoreIdles hbody => cases ih hbody
    | oneOrMore hbody _ _ => cases ih hbody
  | oneOrMoreIdles _ ih =>
    cases h' with
    | oneOrMoreFails hbody => cases ih hbody
    | oneOrMoreIdles => rfl
    | oneOrMore hbody hne _ => exact absurd (Option.some.inj (ih hbody)).symm hne
  | oneOrMore _ hne _ ihbody ihrest =>
    cases h' with
    | oneOrMoreFails hbody => cases ihbody hbody
    | oneOrMoreIdles hbody => exact absurd (Option.some.inj (ihbody hbody)) hne
    | oneOrMore hbody _ hrest =>
      cases ihbody hbody
      exact ihrest hrest
  | not _ ih =>
    cases h' with
    | not => rfl
    | notFails hbody => cases ih hbody
  | notFails _ ih =>
    cases h' with
    | not hbody => cases ih hbody
    | notFails => rfl
  | marked _ ih =>
    cases h' with
    | marked hbody => exact ih hbody

end Element

end Peg
