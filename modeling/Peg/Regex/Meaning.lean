import Peg.Regex.Error
import Peg.Regex.Property
import Peg.Regex.Simplest

/-!
# The meaning of a pattern

Flags are applied to the parts of a pattern they govern. A pattern that could match something other
than whole characters is rejected, which is only possible where Unicode is switched off.
-/

namespace Peg.Regex

open Peg.Text

/-- The flags in force at some place of a pattern. -/
structure Modes where
  caseInsensitive : Bool := false
  multiLine : Bool := false
  dotMatchesNewLine : Bool := false
  swapGreed : Bool := false
  unicode : Bool := true
  crlf : Bool := false
  deriving DecidableEq, Repr

namespace Modes

/-- The flags in force after a list of flags. -/
def apply (m : Modes) (items : List FlagItem) : Modes where
  caseInsensitive := (flagState? .caseInsensitive items).getD m.caseInsensitive
  multiLine := (flagState? .multiLine items).getD m.multiLine
  dotMatchesNewLine := (flagState? .dotMatchesNewLine items).getD m.dotMatchesNewLine
  swapGreed := (flagState? .swapGreed items).getD m.swapGreed
  unicode := (flagState? .unicode items).getD m.unicode
  crlf := (flagState? .crlf items).getD m.crlf

/-- The set closed under case-insensitive matching if that is asked for. -/
def fold (m : Modes) (set : CharSet) : CharSet :=
  if m.caseInsensitive then if m.unicode then .folded set else .asciiFolded set else set

/-- Fold a set and take the complement if it is negated. Without Unicode a complement would contain
bytes that are no characters. -/
def foldAndNegate (m : Modes) (negated : Bool) (set : CharSet) : Except PatternError CharSet :=
  if negated && !m.unicode then .error .invalidUtf8
  else .ok (CharSet.negatedIf negated (m.fold set))

/-- A literal as a character. A byte beyond ASCII is none when Unicode is switched off. -/
def scalar (m : Modes) (l : Literal) : Except PatternError Char :=
  if !m.unicode && l.isByte && 0x7f < l.char.toNat then .error .invalidUtf8 else .ok l.char

/-- A literal as a member of a class, which is an ASCII character when Unicode is switched off. -/
def classScalar (m : Modes) (l : Literal) : Except PatternError Char := do
  if m.unicode then return l.char
  let c ← m.scalar l
  if c.toNat < 0x80 then return c else throw .unicodeNotAllowed

/-- The members of a class with an escape of one letter. -/
def short (m : Modes) (kind : ShortClass) (negated : Bool) : Except PatternError CharSet :=
  if m.unicode then .ok (CharSet.negatedIf negated (.ofShort kind))
  else if negated then .error .invalidUtf8
  else .ok (.ofShortAscii kind)

/-- The members of a Unicode property. -/
def property (m : Modes) (query : PropertyQuery) (negated : Bool) :
    Except PatternError CharSet := do
  if !m.unicode then throw .unicodeNotAllowed
  m.foldAndNegate (negated != query.isUnequal) (← query.members)

/-- What a dot matches. -/
def dot (m : Modes) : Except PatternError CharSet :=
  if !m.unicode then .error .invalidUtf8
  else if m.dotMatchesNewLine then .ok (.complement .empty)
  else if m.crlf then .ok (.complement (.union (.single '\r') (.single '\n')))
  else .ok (.complement (.single '\n'))

/-- One character of a set under the flags in force. -/
def charOf (m : Modes) (set : CharSet) : Expr :=
  .ofSet set (!m.unicode)

/-- The assertion that an anchor or word boundary stands for. -/
def look (m : Modes) : Assertion → Look
  | .startLine => if m.multiLine then if m.crlf then .startLineCrlf else .startLine else .start
  | .endLine => if m.multiLine then if m.crlf then .endLineCrlf else .endLine else .stop
  | .startText => .start
  | .endText => .stop
  | .wordBoundary => .wordBoundary m.unicode
  | .notWordBoundary => .notWordBoundary m.unicode
  | .wordStart => .wordStart m.unicode
  | .wordEnd => .wordEnd m.unicode
  | .wordStartHalf => .wordStartHalf m.unicode
  | .wordEndHalf => .wordEndHalf m.unicode

mutual

/-- The members of the inside of a bracketed class. -/
def classSet (m : Modes) : ClassSet → Except PatternError CharSet
  | .literal l => do return .single (← m.classScalar l)
  | .range first last => do return .between (← m.classScalar first) (← m.classScalar last)
  | .ascii kind negated => m.foldAndNegate negated (.ofAscii kind)
  | .short kind negated => m.short kind negated
  | .property query negated => m.property query negated
  | .bracketed negated inner => do m.foldAndNegate negated (← m.classSet inner)
  | .union items => do return .unionAll (← m.classSets items)
  | .operation operator left right => do
    let l ← m.classSet left
    let r ← m.classSet right
    return CharSet.operate operator (m.fold l) (m.fold r)

/-- The members of each of several parts of a bracketed class. -/
def classSets (m : Modes) : List ClassSet → Except PatternError (List CharSet)
  | [] => .ok []
  | item :: items => do
    let set ← m.classSet item
    return set :: (← m.classSets items)

end

end Modes

mutual

/-- The meaning of a pattern under the flags in force, and the flags in force behind it. -/
def meaning (m : Modes) : Ast → Except PatternError (Expr × Modes)
  | .empty => .ok (.empty, m)
  | .flags items => .ok (.empty, m.apply items)
  | .literal l => do
    let c ← m.scalar l
    return (m.charOf (m.fold (.single c)), m)
  | .dot => do return (m.charOf (← m.dot), m)
  | .assertion a => .ok (.look (m.look a), m)
  | .short kind negated => do return (m.charOf (← m.short kind negated), m)
  | .property query negated => do return (m.charOf (← m.property query negated), m)
  | .bracketed negated set => do
    return (m.charOf (← m.foldAndNegate negated (← m.classSet set)), m)
  | .repetition min max greedy body => do
    let (e, m) ← meaning m body
    return (.repeated min max (greedy != m.swapGreed) e, m)
  | .group (.flags items) body => do
    let (e, _) ← meaning (m.apply items) body
    return (e, m)
  | .group _ body => do
    let (e, _) ← meaning m body
    return (.capture e, m)
  | .concat parts => do
    let (es, m) ← meanings m parts
    return (.ofRow es, m)
  | .alternation branches => do
    let (es, m) ← meanings m branches
    return (.ofChoice es, m)

/-- The meanings of several patterns, the flags of one being in force for the next. -/
def meanings (m : Modes) : List Ast → Except PatternError (List Expr × Modes)
  | [] => .ok ([], m)
  | part :: parts => do
    let (e, m) ← meaning m part
    let (es, m) ← meanings m parts
    return (e :: es, m)

end

end Peg.Regex
