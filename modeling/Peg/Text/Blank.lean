import Peg.Text.CodeRange

/-!
# White space

The Unicode property White_Space, and the splitting of a list of names at blanks.
-/

namespace Peg.Text

/-- The characters with the property White_Space. -/
def blankRanges : List CodeRange :=
  [⟨0x9, 0xd⟩, ⟨0x20, 0x20⟩, ⟨0x85, 0x85⟩, ⟨0xa0, 0xa0⟩, ⟨0x1680, 0x1680⟩, ⟨0x2000, 0x200a⟩,
    ⟨0x2028, 0x2029⟩, ⟨0x202f, 0x202f⟩, ⟨0x205f, 0x205f⟩, ⟨0x3000, 0x3000⟩]

/-- Whether the character is white space. -/
def isBlank (c : Char) : Bool :=
  CodeRange.anyContains blankRanges c.toNat

/-- The maximal runs of characters that are not separators, in order. -/
def fieldsOf (isSeparator : Char → Bool) : List Char → List (List Char)
  | [] => []
  | c :: rest =>
    if isSeparator c then fieldsOf isSeparator rest
    else
      match rest, fieldsOf isSeparator rest with
      | d :: _, field :: fields =>
        if isSeparator d then [c] :: field :: fields else (c :: field) :: fields
      | _, fields => [c] :: fields

/-- The maximal runs of characters that are not separators, as texts. -/
def fields (isSeparator : Char → Bool) (text : String) : List String :=
  (fieldsOf isSeparator text.toList).map String.ofList

end Peg.Text
