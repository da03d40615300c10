/-!
# Patterns for plain texts

A text becomes a pattern that matches just this text when every character with a meaning of its own
gets a backslash.
-/

namespace Peg.Regex

/-- The characters that have a meaning of their own in patterns. -/
def metaCharacters : List Char :=
  ['\\', '.', '+', '*', '?', '(', ')', '|', '[', ']', '\x7b', '\x7d', '^', '$', '#', '&', '-', '~']

/-- How a character is written in a pattern so that it stands for itself. -/
def quoteChar (c : Char) : List Char :=
  if metaCharacters.contains c then ['\\', c] else [c]

/-- The pattern that matches exactly the given text. -/
def quote (text : String) : String :=
  String.ofList (text.toList.flatMap quoteChar)

end Peg.Regex
