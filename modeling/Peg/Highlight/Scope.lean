import Peg.Grammar

/-!
# Scopes

The names under which highlighted text is known. All scopes of a grammar may end in a common suffix.
-/

namespace Peg

/-- A scope with the suffix behind it, unless it ends in the suffix already. -/
def withSuffix (scope : String) : Option String → String
  | none => scope
  | some suffix =>
    if scope = suffix || ("." ++ suffix).toList.isSuffixOf scope.toList then scope
    else s!"{scope}.{suffix}"

/-- The scope of a definition, if it has one. -/
def Definition.scope? (d : Definition) (suffix : Option String) : Option String :=
  ((d.property? "scope").bind Value.asText?).map fun scope => withSuffix scope suffix

end Peg
