import Peg.Regex.Expr

/-!
# Expressions in their simplest form

Expressions are built without parts that make no difference: texts in a row become one text, and a
choice between characters or between sets becomes a set. Branches of a choice that start with the
same parts share them. The parts come before the choice then, so a part that can match in several
ways settles on one of them before a branch is chosen.
-/

namespace Peg.Regex.Expr

/-- One character of a set. A set of one character is a text, and the empty set counts as a set of
bytes. -/
def ofSet (set : CharSet) (bytes : Bool) : Expr :=
  match set.toRanges with
  | [] => .char .empty true
  | [r] => if r.first = r.last then .literal [Char.ofNat r.first] else .char set bytes
  | _ => .char set bytes

/-- A repetition. Repeating what consumes nothing more than once is pointless, and repeating
anything zero times matches the empty text without looking at the body. -/
def repeated (min : Nat) (max : Option Nat) (greedy : Bool) (body : Expr) : Expr :=
  let (min, max) :=
    if body.consumesNothing then (Nat.min min 1, some ((max.map (Nat.min · 1)).getD 1))
    else (min, max)
  if min = 0 && max = some 0 then .empty
  else if min = 1 && max = some 1 then body
  else .repetition min max greedy body

/-- The parts of an expression that stand in a row. -/
def rowParts : Expr → List Expr
  | .empty => []
  | .concat parts => parts
  | e => [e]

/-- Parts in a row, with texts that follow each other merged. -/
def mergeTexts : List Expr → List Expr
  | [] => []
  | part :: parts =>
    match part, mergeTexts parts with
    | .literal a, .literal b :: rest => .literal (a ++ b) :: rest
    | part, rest => part :: rest

/-- Expressions in a row. -/
def ofRow (parts : List Expr) : Expr :=
  match mergeTexts (parts.flatMap rowParts) with
  | [] => .empty
  | [part] => part
  | parts => .concat parts

/-- The branches of an expression. -/
def choiceBranches : Expr → List Expr
  | .alternation branches => branches
  | e => [e]

/-- The only character of a text, as a set. -/
def single? : Expr → Option CharSet
  | .literal [c] => some (.single c)
  | _ => none

/-- The set that an expression matches one character of. -/
def set? : Expr → Option CharSet
  | .char set _ => some set
  | _ => none

/-- The parts of an expression with several parts in a row. -/
def parts? : Expr → Option (List Expr)
  | .concat parts => some parts
  | _ => none

/-- The number of parts at the start of two rows that are the same. -/
def commonLength (left right : List Expr) : Nat :=
  ((left.zip right).takeWhile fun (l, r) => l.same r).length

/-- The parts at the start of all branches, and what remains of the branches behind them. -/
def sharedStart? (branches : List Expr) : Option (List Expr × List (List Expr)) :=
  match branches.mapM parts? with
  | some (first :: others) =>
    let length := others.foldl (fun n row => min n (commonLength first row)) first.length
    if length = 0 then none
    else some (first.take length, (first :: others).map fun row => row.drop length)
  | _ => none

/-- A choice whose branches start in different ways. -/
def ofBranches (branches : List Expr) : Expr :=
  match branches.flatMap choiceBranches with
  | [branch] => branch
  | branches =>
    match branches.mapM single? <|> branches.mapM set? with
    | some sets => ofSet (.unionAll sets) false
    | none => .alternation branches

/-- A choice. What all branches start with comes before it. -/
def ofChoice (branches : List Expr) : Expr :=
  match ofBranches branches with
  | .alternation branches =>
    match sharedStart? branches with
    | some (start, rests) => ofRow (start ++ [ofBranches (rests.map ofRow)])
    | none => .alternation branches
  | e => e

end Peg.Regex.Expr
