import Peg.Grammar

/-!
# Settings

How parsers and highlighting are to be generated. A setting can be given as an option of the grammar
or from outside, and what is given first wins.
-/

namespace Peg

/-- The settings that have been given. -/
structure Config where
  /-- The rule at which the parser starts. -/
  root : Option String
  /-- What is put behind every scope. -/
  scopeSuffix : Option String
  /-- Whether the parser comes with a visitor. -/
  generateVisitor : Option Bool
  /-- The module around the parser. -/
  namespaceName : Option String
  /-- What the name of the visitor starts with. -/
  className : Option String
  /-- The name of the language, for highlighting. -/
  languageName : Option String
  /-- The scope of the language, for highlighting. -/
  languageScope : Option String
  /-- The file types of the language, for highlighting. -/
  fileTypes : Option (List String)
  deriving DecidableEq, Repr

namespace Config

/-- No setting is given. -/
def empty : Config :=
  ⟨none, none, none, none, none, none, none, none⟩

/-- The names in a list with commas or blanks between them. -/
def splitList (list : String) : List String :=
  Text.fields (fun c => c == ',' || Text.isBlank c) list

/-- The settings that a grammar gives in its options. -/
def ofGrammar (g : Grammar) : Config :=
  let text (name : String) := (g.option? name).bind Value.asText?
  { root := text "root"
    scopeSuffix := text "scope_suffix"
    generateVisitor := (g.option? "generate_visitor").bind Value.asBool?
    namespaceName := text "namespace"
    className := text "class_name"
    languageName := text "tm_name"
    languageScope := text "tm_scope_name"
    fileTypes := (text "tm_file_types").map splitList }

/-- Take the settings that are missing from a second configuration. -/
def or (c base : Config) : Config :=
  { root := c.root.or base.root
    scopeSuffix := c.scopeSuffix.or base.scopeSuffix
    generateVisitor := c.generateVisitor.or base.generateVisitor
    namespaceName := c.namespaceName.or base.namespaceName
    className := c.className.or base.className
    languageName := c.languageName.or base.languageName
    languageScope := c.languageScope.or base.languageScope
    fileTypes := c.fileTypes.or base.fileTypes }

/-- The suffix of scopes. An empty one is none. -/
def suffix? (c : Config) : Option String :=
  c.scopeSuffix.filter fun suffix => !suffix.isEmpty

/-- Whether a visitor is wanted. -/
def wantsVisitor (c : Config) : Bool :=
  c.generateVisitor.getD false

/-- The file types, of which there are none by default. -/
def types (c : Config) : List String :=
  c.fileTypes.getD []

end Config

end Peg
