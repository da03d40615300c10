import Peg.Grammar.Variation
import Peg.Proofs.Grammar.References

/-!
# The parts that a match consists of

A match of an element consists of matches of its parts, and where a reference stands, of the parts
of the definition. What a dropped part matches is not kept. The analysis for variable text looks for
a kept part that leaves the parser a choice, and it misses none, although it enters no definition
twice on the way.
-/

namespace Peg

/-- Whether the text of a match is not laid down by the element and its parts: it depends on the
branch, on the number of turns or on the pattern. -/
def Element.branches : Element → Bool
  | .regex _ _ _ | .choice _ _ _ | .optional _ _ | .zeroOrMore _ _ | .oneOrMore _ _ => true
  | .text _ _ | .number _ _ | .boolean _ _ | .reference _ _ | .sequence _ _ _ | .not _ _
  | .marked _ _ _ => false

namespace Grammar

/-- A match of an element has a match of `part` in it, as far as markers let it through. References
are followed, except to the definitions with numbers in `avoided`. -/
inductive Within (g : Grammar) (through : Marker → Prop) (avoided : List Nat) (part : Element) :
    Element → Prop where
  | refl : g.Within through avoided part part
  | left {s : Span} {left right : Element} : g.Within through avoided part left →
      g.Within through avoided part (.sequence s left right)
  | right {s : Span} {left right : Element} : g.Within through avoided part right →
      g.Within through avoided part (.sequence s left right)
  | marked {s : Span} {marker : Marker} {body : Element} : through marker →
      g.Within through avoided part body → g.Within through avoided part (.marked s marker body)
  | reference {s : Span} {name : String} {d : Definition} : g.find? name = some d →
      d.id ∉ avoided → g.Within through avoided part d.body →
      g.Within through avoided part (.reference s name)

/-- What `part` matches is kept in a match of the element. -/
abbrev Keeps (g : Grammar) (e part : Element) : Prop :=
  g.Within (· ≠ .drop) [] part e

/-- What `part` matches belongs to the input that the element matches, whether it is kept or not. -/
abbrev Spans (g : Grammar) (e part : Element) : Prop :=
  g.Within (fun _ => True) [] part e

variable {g : Grammar} {through : Marker → Prop} {avoided : List Nat} {e part inner : Element}

/-- A part of a part is a part, reached through the same elements. -/
theorem Within.trans (h : g.Within through avoided part e)
    (hinner : g.Within through avoided inner part) : g.Within through avoided inner e := by
  induction h with
  | refl => exact hinner
  | left _ ih => exact .left ih
  | right _ ih => exact .right ih
  | marked hthrough _ ih => exact .marked hthrough ih
  | reference hfind hnew _ ih => exact .reference hfind hnew ih

/-- A way to a part avoids a definition, or what follows the last visit of that definition does. -/
theorem Within.avoid {d : Definition} (hd : d ∈ g.definitions)
    (h : g.Within through avoided part e) :
    g.Within through (d.id :: avoided) part e ∨
      g.Within through (d.id :: avoided) part d.body := by
  induction h with
  | refl => exact Or.inl .refl
  | left _ ih => exact ih.imp_left .left
  | right _ ih => exact ih.imp_left .right
  | marked hthrough _ ih => exact ih.imp_left (.marked hthrough)
  | @reference s name t hfind hnew _ ih =>
    by_cases hid : t.id = d.id
    · obtain rfl := eq_of_id_eq (mem_of_find? hfind) hd hid
      exact Or.inr (ih.elim id id)
    · exact ih.imp_left (.reference hfind (by simp [hid, hnew]))

/-- A kept part that branches is found while few definitions are avoided. -/
theorem varies_of_within {budget : Nat} (hnodup : avoided.Nodup)
    (hids : ∀ id ∈ avoided, id < g.size) (hbudget : g.size < budget + avoided.length)
    (hbranches : part.branches = true) (h : g.Within (· ≠ .drop) avoided part e) :
    e.varies (g.nameVaries budget avoided) = true := by
  induction budget generalizing avoided e with
  | zero =>
    have hlength := length_le_of_nodup hnodup hids
    omega
  | succ budget ih =>
    induction h with
    | refl => cases part <;> first | rfl | cases hbranches
    | left _ ihl => simp [Element.varies, ihl]
    | right _ ihr => simp [Element.varies, ihr]
    | @marked s marker body hthrough _ ihm =>
      cases marker with
      | drop => exact absurd rfl hthrough
      | _ => exact ihm
    | @reference s name d hfind hnew hbody _ =>
      have hd := mem_of_find? hfind
      have hlast : g.Within (· ≠ .drop) (d.id :: avoided) part d.body :=
        (hbody.avoid hd).elim id id
      have hids' : ∀ id ∈ d.id :: avoided, id < g.size := by
        intro id hid
        rcases List.mem_cons.mp hid with rfl | hid
        · exact id_lt_size hd
        · exact hids id hid
      have hvaries := ih (List.nodup_cons.mpr ⟨hnew, hnodup⟩) hids'
        (by simp only [List.length_cons]; omega) hlast
      simpa [Element.varies, nameVaries, hfind, hnew] using hvaries

/-- If the analysis says that a match does not vary then no kept part of it branches. -/
theorem branches_eq_false_of_keeps (hvaries : g.matchesVariableText e = false)
    (h : g.Keeps e part) : part.branches = false := by
  cases hbranches : part.branches with
  | false => rfl
  | true =>
    have hfound : g.matchesVariableText e = true :=
      varies_of_within .nil (by simp) (by simp) hbranches h
    rw [hvaries] at hfound
    cases hfound

end Grammar

end Peg
