/-!
# A stack with nested scopes

Every item is tagged with the number of scopes that were open when it was pushed, and every open
scope remembers its floor, the number of scopes around it. Reading sees only items tagged above the
innermost floor, so that work inside a scope never consumes what lies outside.
-/

namespace Peg

/-- An item with the number of scopes that were open when it was pushed. -/
structure ScopedStack.Entry (α : Type) where
  /-- The number of scopes. The number is unbounded here, where a counter of 32 bits is enough for
  fewer than `2 ^ 32` open scopes. -/
  depth : Nat
  item : α
  deriving DecidableEq, Repr

/-- Items with the newest first, and the floors of the open scopes with the innermost first. -/
structure ScopedStack (α : Type) where
  entries : List (ScopedStack.Entry α)
  floors : List Nat
  deriving DecidableEq, Repr

/-- A way to read the items of one kind. Extraction may refuse an item that the kind admits. -/
structure ItemKind (α β : Type) where
  name : String
  admits : α → Bool
  extract? : α → Option β

/-- The kind of the items on which a partial reading succeeds. -/
def ItemKind.ofReading {α β : Type} (name : String) (reading : α → Option β) : ItemKind α β :=
  ⟨name, fun item => (reading item).isSome, reading⟩

/-- Why a stack operation fails. -/
inductive StackError where
  | noOpenScope
  | empty (expected : String)
  | mismatch (expected found : String)
  deriving DecidableEq, Repr

/-- What is reported when a stack operation fails. -/
def StackError.message : StackError → String
  | .noOpenScope => "no open scope to exit"
  | .empty expected => s!"expected {expected}, but the current scope is empty"
  | .mismatch expected found => s!"expected {expected}, found {found}"

namespace ScopedStack

variable {α β : Type}

/-- The stack without items and without open scopes. -/
def empty : ScopedStack α :=
  ⟨[], []⟩

/-- The number of open scopes. -/
def depth (s : ScopedStack α) : Nat :=
  s.floors.length

/-- Open a scope. -/
def enter (s : ScopedStack α) : ScopedStack α :=
  { s with floors := s.depth :: s.floors }

/-- Put an item on top. -/
def push (s : ScopedStack α) (item : α) : ScopedStack α :=
  { s with entries := ⟨s.depth, item⟩ :: s.entries }

/-- Put items on top, the last one topmost. -/
def pushAll (s : ScopedStack α) (items : List α) : ScopedStack α :=
  items.foldl push s

/-- Whether an entry lies above the innermost floor. -/
def isVisible (s : ScopedStack α) (entry : Entry α) : Bool :=
  match s.floors with
  | [] => true
  | floor :: _ => floor < entry.depth

/-- The topmost item of the current scope. -/
def top? (s : ScopedStack α) : Option α :=
  match s.entries with
  | [] => none
  | entry :: _ => if s.isVisible entry then some entry.item else none

/-- The number of items in the current scope. -/
def scopeSize (s : ScopedStack α) : Nat :=
  (s.entries.takeWhile s.isVisible).length

/-- Whether the current scope holds no item. -/
def isScopeEmpty (s : ScopedStack α) : Bool :=
  s.top?.isNone

/-- Close the innermost scope and hand over its items in the order they were pushed. -/
def exit (s : ScopedStack α) : Except StackError (List α × ScopedStack α) :=
  match s.floors with
  | [] => .error .noOpenScope
  | floor :: floors =>
    let inside (entry : Entry α) : Bool := floor < entry.depth
    let items := (s.entries.takeWhile inside).map Entry.item
    .ok (items.reverse, ⟨s.entries.dropWhile inside, floors⟩)

/-- Take the topmost item if it is of a kind. Otherwise the stack is left alone. -/
def tryPop (s : ScopedStack α) (kind : ItemKind α β) : Option (β × ScopedStack α) :=
  match s.entries with
  | [] => none
  | entry :: entries =>
    if s.isVisible entry && kind.admits entry.item then
      (kind.extract? entry.item).map fun value => (value, { s with entries := entries })
    else none

/-- Take the topmost item, which has to be of a kind. -/
def pop (describe : α → String) (s : ScopedStack α) (kind : ItemKind α β) :
    Except StackError (β × ScopedStack α) :=
  match s.top? with
  | none => .error (.empty kind.name)
  | some item =>
    match s.tryPop kind with
    | some popped => .ok popped
    | none => .error (.mismatch kind.name (describe item))

/-- The topmost item if a kind admits it. -/
def peek? (s : ScopedStack α) (kind : ItemKind α β) : Option α :=
  s.top?.filter kind.admits

/-- The values that can be taken one after the other from the top of `entries`, the topmost one
first, and the entries that remain. -/
def takeRun (kind : ItemKind α β) (visible : Entry α → Bool) :
    List (Entry α) → List β × List (Entry α)
  | [] => ([], [])
  | entry :: entries =>
    match if visible entry && kind.admits entry.item then kind.extract? entry.item else none with
    | none => ([], entry :: entries)
    | some value =>
      let (values, rest) := takeRun kind visible entries
      (value :: values, rest)

/-- Take items of a kind as long as there is one on top, and hand them over in the order they were
pushed. -/
def popRun (s : ScopedStack α) (kind : ItemKind α β) : List β × ScopedStack α :=
  let (values, entries) := takeRun kind s.isVisible s.entries
  (values.reverse, { s with entries := entries })

end ScopedStack

end Peg
