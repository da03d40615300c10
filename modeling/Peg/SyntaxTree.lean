import Peg.Span
import Peg.SyntaxTree.Kind
import Peg.Text.Offset

/-!
# Syntax trees of grammars

A syntax tree holds every character of a grammar in its tokens, so that the text of the tree is the
text of the grammar and every part of the tree has a place in it.
-/

namespace Peg

open Peg.Text

/-- A token with its text, or a node with its parts. -/
inductive SyntaxTree where
  | token (kind : TokenKind) (text : String)
  | node (kind : NodeKind) (children : List SyntaxTree)
  deriving Repr

namespace SyntaxTree

/-- The kind of the outermost part. -/
def kind : SyntaxTree → SyntaxKind
  | .token kind _ => .token kind
  | .node kind _ => .node kind

mutual

/-- The text of a tree. -/
def text : SyntaxTree → String
  | .token _ text => text
  | .node _ children => textOfAll children

/-- The texts of several trees in a row. -/
def textOfAll : List SyntaxTree → String
  | [] => ""
  | t :: ts => t.text ++ textOfAll ts

end

mutual

/-- The number of bytes in the text of a tree. -/
def width : SyntaxTree → Nat
  | .token _ text => byteLength text.toList
  | .node _ children => widthOfAll children

/-- The number of bytes in the texts of several trees. -/
def widthOfAll : List SyntaxTree → Nat
  | [] => 0
  | t :: ts => t.width + widthOfAll ts

end

/-- The span of a tree that starts at an offset. -/
def spanFrom (t : SyntaxTree) (start : Nat) : Span :=
  ⟨start, start + t.width⟩

/-- A part of a tree with the number of nodes around it and its span. -/
structure Entry where
  depth : Nat
  span : Span
  tree : SyntaxTree
  deriving Repr

mutual

/-- All parts of a tree that starts at an offset, each before what it contains. -/
def entriesFrom (depth start : Nat) : SyntaxTree → List Entry
  | .token kind text => [⟨depth, spanFrom (.token kind text) start, .token kind text⟩]
  | .node kind children =>
    ⟨depth, spanFrom (.node kind children) start, .node kind children⟩ ::
      entriesOfAll (depth + 1) start children

/-- All parts of several trees in a row. -/
def entriesOfAll (depth start : Nat) : List SyntaxTree → List Entry
  | [] => []
  | t :: ts => t.entriesFrom depth start ++ entriesOfAll depth (start + t.width) ts

end

/-- All parts of a tree, each before what it contains. -/
def entries (t : SyntaxTree) : List Entry :=
  t.entriesFrom 0 0

end SyntaxTree

end Peg
