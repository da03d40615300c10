import Peg.Text.CodeRange
import Peg.Text.LetterCaseTable

/-!
# Letter case

Upper-case and lower-case forms of characters and texts, for all of Unicode. A form may have
several characters, and a capital sigma at the end of a word has a lower-case form of its own.
-/

namespace Peg.Text.LetterCase

/-- Whether the character has the property Uppercase. -/
def isUpper (c : Char) : Bool :=
  CodeStride.anyContains upperRanges c.toNat

/-- Whether the character has the property Lowercase. -/
def isLower (c : Char) : Bool :=
  CodeStride.anyContains lowerRanges c.toNat

/-- Whether the character takes part in letter case at all. -/
def isCased (c : Char) : Bool :=
  isUpper c || isLower c || CodeRange.anyContains titleRanges c.toNat

/-- Whether the character is passed over when looking for a cased neighbour. -/
def isIgnorable (c : Char) : Bool :=
  CodeRange.anyContains ignorableRanges c.toNat

/-- The form of a character given by a table of single images and one of longer expansions. -/
private def formOf (shifts : List CodeShift) (expansions : List (Nat × List Nat)) (c : Char) :
    List Char :=
  match CodeShift.image? shifts c.toNat with
  | some code => [Char.ofNat code]
  | none => ((expansions.lookup c.toNat).map fun codes => codes.map Char.ofNat).getD [c]

/-- The upper-case form of a character. -/
def upper (c : Char) : List Char :=
  formOf upperShifts upperExpansions c

/-- A character with a single image has that as its upper-case form. -/
theorem upper_of_image? {c : Char} {code : Nat}
    (h : CodeShift.image? upperShifts c.toNat = some code) : upper c = [Char.ofNat code] := by
  rw [upper, formOf, h]

/-- A character without an image has its expansion as its upper-case form, or else itself. -/
theorem upper_of_image?_eq_none {c : Char} (h : CodeShift.image? upperShifts c.toNat = none) :
    upper c = ((upperExpansions.lookup c.toNat).map (·.map Char.ofNat)).getD [c] := by
  rw [upper, formOf, h]

/-- The lower-case form of a character on its own. -/
def lower (c : Char) : List Char :=
  formOf lowerShifts lowerExpansions c

/-- Whether the first character that is not ignorable is cased. -/
def startsCased (cs : List Char) : Bool :=
  match cs.dropWhile isIgnorable with
  | [] => false
  | c :: _ => isCased c

/-- The lower-case form of the characters `cs` that follow `before`, which is in reverse order. A
capital sigma that ends a word becomes a final sigma. -/
def lowerAfter (before : List Char) : List Char → List Char
  | [] => []
  | c :: rest =>
    let form :=
      if c = 'Σ' then
        if startsCased before && !startsCased rest then ['ς'] else ['σ']
      else lower c
    form ++ lowerAfter (c :: before) rest

/-- The lower-case form of a text. -/
def lowerText (text : String) : String :=
  String.ofList (lowerAfter [] text.toList)

end Peg.Text.LetterCase
