import Peg.Finding
import Peg.Grammar

/-!
# Names

Options and properties that nothing reads, and references that name no definition.
-/

namespace Peg

/-- The options that have a meaning. -/
def knownOptions : List String :=
  ["namespace", "class_name", "root", "scope_suffix", "tm_name", "tm_scope_name", "tm_file_types",
    "generate_visitor"]

/-- The properties that have a meaning. -/
def knownProperties : List String :=
  ["scope", "begin", "end", "include", "bracket_open", "bracket_close", "error_name"]

namespace Grammar

/-- The attributes whose names are not known. -/
def unknown (kind : FindingKind) (known : List String) (attributes : Attributes) : List Finding :=
  (attributes.filter fun a => !known.contains a.name).map fun a => .detailed kind a.nameSpan a.name

/-- The references in a body that name no definition. -/
def undefinedReferences (g : Grammar) (body : Element) : List Finding :=
  (body.references.filter fun r => (g.find? r.name).isNone).map fun r =>
    .detailed .undefinedReference r.span r.name

/-- What is wrong with the names in a definition. -/
def definitionNameFindings (g : Grammar) (d : Definition) : List Finding :=
  unknown .unknownProperty knownProperties d.properties ++ g.undefinedReferences d.body

/-- What is wrong with the names in a grammar: first those of its options, then those in each of its
definitions. -/
def nameFindings (g : Grammar) : List Finding :=
  unknown .unknownOption knownOptions g.options ++ g.definitions.flatMap g.definitionNameFindings

end Grammar

end Peg
