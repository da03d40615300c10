import Peg.Text.LetterCase

/-!
# Words of an identifier

An identifier is split into words at separators and at changes of letter case, so that it can be
written in another convention. A run of capitals is one word, except that its last letter starts
the next word when a lower-case letter follows.
-/

namespace Peg.Text

namespace Words

open LetterCase

/-- The characters that separate words and belong to none. -/
def isSeparator (c : Char) : Bool :=
  c = '_' || c = '-' || c = '.' || c = ' '

/-- Whether the capital `c` starts a word between the character before it and those after it. -/
def startsWord (before? : Option Char) (c : Char) (after : List Char) : Bool :=
  isUpper c &&
    match before? with
    | none => false
    | some before =>
      if isLower before || before.isDigit then true
      else if isUpper before then after.head?.any isLower
      else false

/-- Close the word that is being collected, which is in reverse order, unless it is empty. -/
def close (word : List Char) (words : List (List Char)) : List (List Char) :=
  if word.isEmpty then words else word.reverse :: words

/-- Split the rest of an identifier, given the character before it and the letters collected for
the current word in reverse order. -/
def splitFrom (before? : Option Char) (word : List Char) : List Char → List (List Char)
  | [] => close word []
  | c :: rest =>
    if isSeparator c then close word (splitFrom (some c) [] rest)
    else if startsWord before? c rest then close word (splitFrom (some c) [c] rest)
    else splitFrom (some c) (c :: word) rest

end Words

/-- The words of an identifier. -/
def words (name : String) : List String :=
  (Words.splitFrom none [] name.toList).map String.ofList

/-- A word with a capital at the start and small letters after it. -/
def capitalize (word : String) : String :=
  match word.toList with
  | [] => ""
  | c :: rest => String.ofList (LetterCase.upper c ++ rest.flatMap LetterCase.lower)

/-- The identifier as capitalized words without separators. -/
def pascalCase (name : String) : String :=
  String.join ((words name).map capitalize)

/-- The identifier as lower-case words joined by underscores. -/
def snakeCase (name : String) : String :=
  "_".intercalate ((words name).map LetterCase.lowerText)

end Peg.Text
