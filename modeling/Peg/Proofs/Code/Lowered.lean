import Peg.Code.Lowering
import Peg.Proofs.Analysis.Closure
import Peg.Proofs.Except
import Peg.Proofs.Parse.Program

/-!
# How programs follow grammars

A combinator that was lowered from an element has the same form, once the references that are
expanded and the markers that leave no trace have been taken off the element. The rules of a program
are those of the definitions that the parser calls, in the same order.
-/

namespace Peg

namespace Grammar

/-- One element stands for another one: references are replaced by the bodies of their definitions,
and inline markers are dropped. -/
inductive Expands (g : Grammar) : Element → Element → Prop where
  | refl {e : Element} : g.Expands e e
  | reference {s : Span} {name : String} {d : Definition} {e : Element} :
      g.find? name = some d → g.Expands d.body e → g.Expands (.reference s name) e
  | inline {s : Span} {body e : Element} : g.Expands body e →
      g.Expands (.marked s .inline body) e

mutual

/-- A combinator has the form of an element, if that is expanded where it leaves no trace. -/
inductive Lowers (g : Grammar) (callable : List Nat) : Element → Combinator → Prop where
  | intro {e head : Element} {c : Combinator} : g.Expands e head → g.LowersHead callable head c →
      g.Lowers callable e c

/-- The outermost operation of a combinator is that of an element. Rules that the parser calls are
numbered by their places. -/
inductive LowersHead (g : Grammar) (callable : List Nat) : Element → Combinator → Prop where
  | text {s : Span} {content : String} : g.LowersHead callable (.text s content) (.literal content)
  | regex {s : Span} {pattern : String} {times : Nat} :
      g.LowersHead callable (.regex s pattern times) (.pattern pattern times)
  | call {s : Span} {name : String} {d : Definition} {index : Nat} : g.find? name = some d →
      callable[index]? = some d.id → g.LowersHead callable (.reference s name) (.call ⟨index⟩)
  | sequence {s : Span} {left right : Element} {l r : Combinator} : g.Lowers callable left l →
      g.Lowers callable right r → g.LowersHead callable (.sequence s left right) (.sequence l r)
  | choice {s : Span} {left right : Element} {l r : Combinator} : g.Lowers callable left l →
      g.Lowers callable right r → g.LowersHead callable (.choice s left right) (.choice l r)
  | optional {s : Span} {body : Element} {b : Combinator} : g.Lowers callable body b →
      g.LowersHead callable (.optional s body) b.optional
  | zeroOrMore {s : Span} {body : Element} {b : Combinator} : g.Lowers callable body b →
      g.LowersHead callable (.zeroOrMore s body) b.zeroOrMore
  | oneOrMore {s : Span} {body : Element} {b : Combinator} : g.Lowers callable body b →
      g.LowersHead callable (.oneOrMore s body) b.oneOrMore
  | not {s : Span} {body : Element} {b : Combinator} : g.Lowers callable body b →
      g.LowersHead callable (.not s body) (.not b)
  | drop {s : Span} {body : Element} {b : Combinator} : g.Lowers callable body b →
      g.LowersHead callable (.marked s .drop body) (.drop b)
  | terminal {s : Span} {decode : Bool} {body : Element} {b : Combinator} :
      g.Lowers callable body b →
      g.LowersHead callable (.marked s (.terminal decode) body) (.terminal decode b)
  | promoteError {s : Span} {label : String} {body : Element} {b : Combinator} :
      g.Lowers callable body b →
      g.LowersHead callable (.marked s .promoteError body) (.errorName label true b)
  | nameAsError {s : Span} {label : String} {body : Element} {b : Combinator} :
      g.Lowers callable body b →
      g.LowersHead callable (.marked s .nameAsError body) (.errorName label false b)

end

variable {g : Grammar} {callable : List Nat} {c : Combinator}

/-- A combinator has the form of an element if its outermost operation is that of the element
itself. -/
theorem LowersHead.lowers {e : Element} (h : g.LowersHead callable e c) : g.Lowers callable e c :=
  .intro .refl h

/-- An inline marker leaves no trace. -/
theorem Lowers.inline {s : Span} {body : Element} (h : g.Lowers callable body c) :
    g.Lowers callable (.marked s .inline body) c := by
  cases h with
  | intro hexpands hhead => exact .intro (.inline hexpands) hhead

/-- An expanded reference has the form of the body of its definition. -/
theorem Lowers.expand {s : Span} {name : String} {d : Definition} (hfind : g.find? name = some d)
    (h : g.Lowers callable d.body c) : g.Lowers callable (.reference s name) c := by
  cases h with
  | intro hexpands hhead => exact .intro (.reference hfind hexpands) hhead

/-- The lowering of an element follows it if the lowering of references does. -/
theorem lowers_of_lower {label : String} {follow : Reference → Except LoweringError Combinator}
    (hfollow : ∀ {r c}, follow r = .ok c → g.Lowers callable (.reference r.span r.name) c)
    {e : Element} (h : e.lower label follow = .ok c) : g.Lowers callable e c := by
  induction e generalizing c with
  | text =>
    cases h
    exact LowersHead.text.lowers
  | regex =>
    simp only [Element.lower] at h
    split at h
    · cases h
      exact LowersHead.regex.lowers
    · cases h
  | number => cases h
  | boolean => cases h
  | reference s name => exact hfollow (r := ⟨name, s⟩) h
  | sequence _ left right ihl ihr =>
    simp only [Element.lower, bind_eq_ok_iff] at h
    obtain ⟨l, hleft, r, hright, h⟩ := h
    cases h
    exact (LowersHead.sequence (ihl hleft) (ihr hright)).lowers
  | choice _ left right ihl ihr =>
    simp only [Element.lower, bind_eq_ok_iff] at h
    obtain ⟨l, hleft, r, hright, h⟩ := h
    cases h
    exact (LowersHead.choice (ihl hleft) (ihr hright)).lowers
  | optional _ body ih =>
    simp only [Element.lower, bind_eq_ok_iff] at h
    obtain ⟨b, hbody, h⟩ := h
    cases h
    exact (LowersHead.optional (ih hbody)).lowers
  | zeroOrMore _ body ih =>
    simp only [Element.lower, bind_eq_ok_iff] at h
    obtain ⟨b, hbody, h⟩ := h
    cases h
    exact (LowersHead.zeroOrMore (ih hbody)).lowers
  | oneOrMore _ body ih =>
    simp only [Element.lower, bind_eq_ok_iff] at h
    obtain ⟨b, hbody, h⟩ := h
    cases h
    exact (LowersHead.oneOrMore (ih hbody)).lowers
  | not _ body ih =>
    simp only [Element.lower, bind_eq_ok_iff] at h
    obtain ⟨b, hbody, h⟩ := h
    cases h
    exact (LowersHead.not (ih hbody)).lowers
  | marked _ marker body ih =>
    simp only [Element.lower, bind_eq_ok_iff] at h
    obtain ⟨b, hbody, h⟩ := h
    cases h
    cases marker with
    | drop => exact (LowersHead.drop (ih hbody)).lowers
    | terminal decode => exact (LowersHead.terminal (ih hbody)).lowers
    | inline => exact (ih hbody).inline
    | promoteError => exact (LowersHead.promoteError (ih hbody)).lowers
    | nameAsError => exact (LowersHead.nameAsError (ih hbody)).lowers

/-- A number that fits into 16 bits is not cut off. -/
theorem ofPlace_eq_of_lt {place : Nat} (hplace : place < callable.length)
    (hcount : callable.length ≤ maxRules) : RuleId.ofPlace place = ⟨place⟩ := by
  have hbound : place < 65536 := by
    unfold maxRules at hcount
    omega
  rw [RuleId.ofPlace, Nat.mod_eq_of_lt hbound]

/-- A reference becomes a call of its rule or the expansion of its definition. -/
theorem lowers_of_lowerReference (hcount : callable.length ≤ maxRules) {budget : Nat}
    {expanding : List Nat} {r : Reference}
    (h : g.lowerReference callable budget expanding r = .ok c) :
    g.Lowers callable (.reference r.span r.name) c := by
  induction budget generalizing expanding r c with
  | zero => cases h
  | succ budget ih =>
    simp only [lowerReference] at h
    split at h
    · cases h
    next d hfind =>
      split at h
      · cases h
      · split at h
        next index hindex =>
          cases h
          obtain ⟨hlt, heq, _⟩ := List.idxOf?_eq_some_iff.mp hindex
          rw [ofPlace_eq_of_lt hlt hcount]
          exact (LowersHead.call hfind
            (List.getElem?_eq_some_iff.mpr ⟨hlt, heq⟩)).lowers
        · split at h
          · cases h
          · exact .expand hfind (lowers_of_lower ih h)

/-- The rules of a program have the forms of the definitions that the parser calls. -/
def Carries (g : Grammar) (callable : List Nat) (program : Program) : Prop :=
  ∀ {index : Nat} {d : Definition}, d ∈ g.definitions → callable[index]? = some d.id →
    ∃ rule, program.rule? ⟨index⟩ = some rule ∧ g.Lowers callable d.body rule.body

/-- A program that is built from rules has these rules and this entry. -/
theorem ofRules_eq_ok {rules : List Rule} {entry : RuleId} {program : Program}
    (h : Program.ofRules rules entry = .ok program) :
    program.rules = rules ∧ program.entry = entry := by
  unfold Program.ofRules at h
  split at h
  · cases h
  · cases h
    exact ⟨rfl, rfl⟩

/-- Definitions that are looked up by existing numbers keep the places of the numbers. -/
theorem filterMap_get?_getElem? {ids : List Nat} (hids : ∀ id ∈ ids, id < g.size) (index : Nat) :
    (ids.filterMap g.get?)[index]? = ids[index]?.bind g.get? := by
  induction ids generalizing index with
  | nil => simp
  | cons id ids ih =>
    have hlt : id < g.definitions.length := hids id List.mem_cons_self
    have hget : g.get? id = some g.definitions[id] := List.getElem?_eq_getElem hlt
    rw [List.filterMap_cons_some hget]
    cases index with
    | zero => simp [hget]
    | succ index => simpa using ih (fun id hid => hids id (List.mem_cons_of_mem _ hid)) index

/-- Every valid id stands for one definition, so looking up a list of ids loses none. -/
theorem length_filterMap_get? {ids : List Nat} (hids : ∀ id ∈ ids, id < g.size) :
    (ids.filterMap g.get?).length = ids.length := by
  induction ids with
  | nil => rfl
  | cons id ids ih =>
    have hlt : id < g.definitions.length := hids id List.mem_cons_self
    have hget : g.get? id = some g.definitions[id] := List.getElem?_eq_getElem hlt
    rw [List.filterMap_cons_some hget]
    simpa using ih fun id hid => hids id (List.mem_cons_of_mem _ hid)

/-- The analysis of a grammar with a root finds the rules that the parser calls. -/
theorem analyze_of_rule? {root : String} {d : Definition} (hroot : g.rule? root = some d) :
    (g.analyze (some root)).1.root = some d.id ∧
      (g.analyze (some root)).1.callable = g.callableRules d.id := by
  have hbind : (some root).bind g.rule? = some d := hroot
  simp only [analyze, hbind, and_self]

/-- A program that was lowered from a grammar has a rule for every definition that the parser calls,
and there are not too many of them. -/
theorem mapM_lowerRule_of_lower {root : String} {d : Definition} {program : Program}
    (hroot : g.rule? root = some d) (h : g.lower (g.analyze (some root)).1 = .ok program) :
    ((g.callableRules d.id).filterMap g.get?).mapM (g.lowerRule (g.analyze (some root)).1 d.id) =
        .ok program.rules ∧
      program.entry = .ofPlace (((g.callableRules d.id).idxOf? d.id).getD 0) ∧
      (g.callableRules d.id).length ≤ maxRules := by
  have hlt : d.id < g.size := id_lt_size (mem_of_rule? hroot)
  obtain ⟨hanalyzed, hcallable⟩ := analyze_of_rule? hroot
  simp only [lower, hanalyzed, hcallable, bind_eq_ok_iff] at h
  obtain ⟨rules, hrules, h⟩ := h
  split at h
  next program' hprogram =>
    cases h
    obtain ⟨rfl, hentry⟩ := ofRules_eq_ok hprogram
    refine ⟨hrules, hentry, ?_⟩
    have hlength := length_of_mapM_eq_ok hrules
    rw [length_filterMap_get? fun id => lt_size_of_mem_callableRules hlt] at hlength
    exact hlength ▸ program.length_le_maxRules
  · cases h

/-- The rule with the number of a definition that the parser calls was lowered from that. -/
theorem exists_rule_of_lower {name : String} {r d : Definition} {index : Nat}
    (hroot : g.rule? name = some r) (h : g.lower (g.analyze (some name)).1 = .ok program)
    (hd : d ∈ g.definitions) (hindex : (g.callableRules r.id)[index]? = some d.id) :
    ∃ rule, program.rule? ⟨index⟩ = some rule ∧ rule.name = d.name ∧
      d.body.lower d.errorLabel (g.lowerReference (g.callableRules r.id) (g.size + 1) []) =
        .ok rule.body := by
  have hlt : r.id < g.size := id_lt_size (mem_of_rule? hroot)
  obtain ⟨hrules, _, _⟩ := mapM_lowerRule_of_lower hroot h
  have hget : ((g.callableRules r.id).filterMap g.get?)[index]? = some d := by
    rw [filterMap_get?_getElem? (fun id => lt_size_of_mem_callableRules hlt), hindex]
    exact get?_id hd
  obtain ⟨rule, hrule, hlowered⟩ := exists_getElem?_of_mapM_eq_ok hrules hget
  simp only [lowerRule, bind_eq_ok_iff] at hlowered
  obtain ⟨body, hbody, hlowered⟩ := hlowered
  cases hlowered
  rw [(analyze_of_rule? hroot).2] at hbody
  exact ⟨_, hrule, rfl, hbody⟩

/-- A program that was lowered from a grammar carries the definitions that the parser calls, and it
starts at the root. -/
theorem carries_of_lower {root : String} {d : Definition} {program : Program}
    (hroot : g.rule? root = some d) (h : g.lower (g.analyze (some root)).1 = .ok program) :
    g.Carries (g.callableRules d.id) program ∧
      (g.callableRules d.id)[program.entry.index]? = some d.id := by
  have hlt : d.id < g.size := id_lt_size (mem_of_rule? hroot)
  obtain ⟨_, hentry, hcount⟩ := mapM_lowerRule_of_lower hroot h
  constructor
  · intro index e he hindex
    obtain ⟨rule, hrule, _, hbody⟩ := exists_rule_of_lower hroot h he hindex
    exact ⟨rule, hrule, lowers_of_lower (lowers_of_lowerReference hcount) hbody⟩
  · have hmem : d.id ∈ g.callableRules d.id := root_mem_callableRules hlt
    obtain ⟨index, hindex⟩ := Option.isSome_iff_exists.mp (List.isSome_idxOf?.mpr hmem)
    obtain ⟨hlt, heq, _⟩ := List.idxOf?_eq_some_iff.mp hindex
    rw [hentry, hindex, Option.getD_some, ofPlace_eq_of_lt hlt hcount]
    exact List.getElem?_eq_some_iff.mpr ⟨hlt, heq⟩

end Grammar

end Peg
