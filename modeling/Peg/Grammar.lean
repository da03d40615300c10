import Peg.Grammar.Attribute
import Peg.Grammar.Element
import Peg.Text.Blank
import Peg.Text.LetterCase

/-!
# Grammars

Named definitions in the order in which they were written, with the options of the grammar. No two
names are equal up to letter case.
-/

namespace Peg

/-- What a definition is for: a rule of the parser, which highlighting may use too, or highlighting
alone. -/
inductive DefinitionKind where
  | rule
  | highlight
  deriving DecidableEq, Repr

/-- A named definition. Its body includes the markers that were put in front of the name. -/
structure Definition where
  /-- The place of the definition in its grammar. -/
  id : Nat
  kind : DefinitionKind
  name : String
  nameSpan : Span
  body : Element
  properties : Attributes
  span : Span
  deriving DecidableEq, Repr

namespace Definition

/-- The name in lower case, which is how names are compared. -/
def foldedName (d : Definition) : String :=
  Text.LetterCase.lowerText d.name

/-- The markers of the whole body, outermost first. -/
def markers (d : Definition) : List Marker :=
  d.body.markers

/-- Whether references to the definition are expanded. -/
def isInline (d : Definition) : Bool :=
  d.markers.contains .inline

/-- Whether the definition keeps nothing in the tree. -/
def isDropped (d : Definition) : Bool :=
  d.markers.contains .drop

/-- Whether the definition collapses to text. -/
def isTerminal (d : Definition) : Bool :=
  d.markers.any fun
    | .terminal _ => true
    | _ => false

/-- The value of a property. -/
def property? (d : Definition) (name : String) : Option Value :=
  (d.properties.get? name).map Attribute.value

/-- The names that a property holds: a bare name, or a text of names with blanks between them. -/
def propertyNames (d : Definition) (name : String) : List String :=
  match d.property? name with
  | some (.reference target) => [target]
  | some (.text list) => Text.fields Text.isBlank list
  | _ => []

end Definition

/-- Why definitions do not make a grammar. -/
inductive GrammarError where
  /-- The name and the place of the definition that came first, and the place of the later one. -/
  | duplicateName (name : String) (span duplicate : Span)
  deriving DecidableEq, Repr

namespace GrammarError

/-- What is reported when definitions do not make a grammar. -/
def message : GrammarError → String
  | .duplicateName name _ _ =>
    s!"`{name}` is defined more than once (names are case-insensitive)"

/-- The place that is reported. -/
def span : GrammarError → Span
  | .duplicateName _ span _ => span

end GrammarError

/-- Definitions and options. -/
structure Grammar where
  definitions : List Definition
  options : Attributes
  /-- The number of a definition is its place. -/
  numbered : definitions.map Definition.id = List.range definitions.length
  /-- No two names are equal up to letter case. -/
  distinct : (definitions.map Definition.foldedName).Nodup
  deriving DecidableEq, Repr

namespace Grammar

/-- The grammar without definitions. -/
def empty : Grammar :=
  ⟨[], [], rfl, .nil⟩

/-- The first entry of a list whose key occurred before, behind the entry that has the key. What has
been seen before the list is given too. -/
def clash? {α β : Type} [BEq α] (seen : List (α × β)) : List (α × β) → Option (β × β)
  | [] => none
  | (key, value) :: rest =>
    match seen.lookup key with
    | some first => some (first, value)
    | none => clash? ((key, value) :: seen) rest

/-- Without a clash the keys are all different, and none of them was seen before. -/
theorem nodup_of_clash?_eq_none {α β : Type} [BEq α] [LawfulBEq α] {seen l : List (α × β)}
    (h : clash? seen l = none) :
    (l.map Prod.fst).Nodup ∧ ∀ key ∈ l.map Prod.fst, seen.lookup key = none := by
  induction l generalizing seen with
  | nil => simp
  | cons entry rest ih =>
    obtain ⟨key, value⟩ := entry
    rw [clash?] at h
    split at h
    · simp at h
    next hkey =>
      obtain ⟨hrest, hseen⟩ := ih h
      have hne : ∀ other ∈ rest.map Prod.fst, other ≠ key ∧ seen.lookup other = none := by
        intro other hother
        have hlookup := hseen other hother
        rw [List.lookup_cons] at hlookup
        cases heq : other == key with
        | true => simp [heq] at hlookup
        | false =>
          rw [heq] at hlookup
          exact ⟨by simpa using heq, hlookup⟩
      refine ⟨?_, ?_⟩
      · simp only [List.map_cons, List.nodup_cons]
        exact ⟨fun hmem => (hne key hmem).1 rfl, hrest⟩
      · intro other hother
        rcases List.mem_cons.mp hother with rfl | hmem
        · exact hkey
        · exact (hne other hmem).2

/-- Number definitions by their places. -/
def number (definitions : List Definition) : List Definition :=
  definitions.mapIdx fun i d => { d with id := i }

/-- Numbered definitions carry the numbers from zero on, in order. -/
theorem map_id_number (definitions : List Definition) :
    (number definitions).map Definition.id = List.range (number definitions).length := by
  apply List.ext_getElem
  · simp
  · intro i _ _
    simp [number]

/-- Definitions with the names under which they are compared. -/
def named (definitions : List Definition) : List (String × Definition) :=
  definitions.map fun d => (d.foldedName, d)

/-- The keys under which definitions are entered are their folded names. -/
theorem map_fst_named (definitions : List Definition) :
    (named definitions).map Prod.fst = definitions.map Definition.foldedName := by
  simp [named, Function.comp_def]

/-- The grammar of the given definitions and options. A name that equals an earlier one up to letter
case is rejected. -/
def ofDefinitions (definitions : List Definition) (options : List Attribute) :
    Except GrammarError Grammar :=
  let definitions := number definitions
  match h : clash? [] (named definitions) with
  | some (first, second) => .error (.duplicateName first.name first.nameSpan second.nameSpan)
  | none =>
    .ok ⟨definitions, Attributes.ofList options, map_id_number _,
      map_fst_named definitions ▸ (nodup_of_clash?_eq_none h).1⟩

/-- The definition at a place. -/
def get? (g : Grammar) (id : Nat) : Option Definition :=
  g.definitions[id]?

/-- The definition with a name. -/
def find? (g : Grammar) (name : String) : Option Definition :=
  g.definitions.find? fun d => d.name == name

/-- The definitions that are rules of the parser. -/
def rules (g : Grammar) : List Definition :=
  g.definitions.filter fun d => d.kind = .rule

/-- The definitions that are for highlighting alone. -/
def highlights (g : Grammar) : List Definition :=
  g.definitions.filter fun d => d.kind = .highlight

/-- The number of definitions. -/
def size (g : Grammar) : Nat :=
  g.definitions.length

/-- The value of an option. -/
def option? (g : Grammar) (name : String) : Option Value :=
  (g.options.get? name).map Attribute.value

end Grammar

end Peg
