import Peg.Regex.RangeForm

/-!
# Patterns as sets of texts

A regular expression without flags: every part is a text, a set of characters, an assertion about a
place in the text, or a combination of smaller parts. Preference matters, because the first way to
match is the one that counts.
-/

namespace Peg.Regex

/-- An assertion about a place between two characters. Words are ASCII words, or words of Unicode
text as long as this is all ASCII. -/
inductive Look where
  | start
  | stop
  | startLine
  | endLine
  | startLineCrlf
  | endLineCrlf
  | wordBoundary (unicode : Bool)
  | notWordBoundary (unicode : Bool)
  | wordStart (unicode : Bool)
  | wordEnd (unicode : Bool)
  | wordStartHalf (unicode : Bool)
  | wordEndHalf (unicode : Bool)
  deriving DecidableEq, Repr

/-- Whether the assertion concerns words of Unicode text. -/
def Look.isUnicodeWord : Look → Bool
  | .wordBoundary u | .notWordBoundary u | .wordStart u | .wordEnd u | .wordStartHalf u
  | .wordEndHalf u => u
  | _ => false

/-- A regular expression. -/
inductive Expr where
  | empty
  /-- A text of at least one character. -/
  | literal (text : List Char)
  /-- One character of a set, which is a set of bytes where Unicode is switched off. -/
  | char (set : CharSet) (bytes : Bool)
  | look (look : Look)
  | repetition (min : Nat) (max : Option Nat) (greedy : Bool) (body : Expr)
  /-- A group of its own, which is never merged with what is around it. -/
  | capture (body : Expr)
  | concat (parts : List Expr)
  | alternation (branches : List Expr)
  deriving Repr

namespace Expr

mutual

/-- Whether the expression consumes no character in any match. -/
def consumesNothing : Expr → Bool
  | .empty => true
  | .literal _ => false
  | .char _ _ => false
  | .look _ => true
  | .repetition _ _ _ body => body.consumesNothing
  | .capture body => body.consumesNothing
  | .concat parts => allConsumeNothing parts
  | .alternation branches => allConsumeNothing branches

/-- Whether each of the expressions consumes no character in any match. -/
def allConsumeNothing : List Expr → Bool
  | [] => true
  | part :: parts => part.consumesNothing && allConsumeNothing parts

end

mutual

/-- Whether the expression consumes a character in every match. -/
def consumesSomething : Expr → Bool
  | .empty => false
  | .literal _ => true
  | .char _ _ => true
  | .look _ => false
  | .repetition min _ _ body => min != 0 && body.consumesSomething
  | .capture body => body.consumesSomething
  | .concat parts => anyConsumesSomething parts
  | .alternation branches => allConsumeSomething branches

/-- Whether one of the expressions consumes a character in every match. -/
def anyConsumesSomething : List Expr → Bool
  | [] => false
  | part :: parts => part.consumesSomething || anyConsumesSomething parts

/-- Whether each of the expressions consumes a character in every match. -/
def allConsumeSomething : List Expr → Bool
  | [] => true
  | part :: parts => part.consumesSomething && allConsumeSomething parts

end

mutual

/-- Whether two expressions are the same. Different groups are not. -/
def same : Expr → Expr → Bool
  | .empty, .empty => true
  | .literal a, .literal b => a == b
  | .char a bytes, .char b bytes' => bytes == bytes' && a.sameMembers b
  | .look a, .look b => a == b
  | .repetition min max greedy body, .repetition min' max' greedy' body' =>
    min == min' && max == max' && greedy == greedy' && same body body'
  | .concat parts, .concat parts' => sameAll parts parts'
  | .alternation branches, .alternation branches' => sameAll branches branches'
  | _, _ => false

/-- Whether the expressions of two lists are the same. -/
def sameAll : List Expr → List Expr → Bool
  | [], [] => true
  | part :: parts, part' :: parts' => same part part' && sameAll parts parts'
  | _, _ => false

end

end Expr

end Peg.Regex
