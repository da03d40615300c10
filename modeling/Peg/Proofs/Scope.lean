import Peg.ScopedStack

/-!
# Work inside a scope

A scope that is opened above a stack hides the stack: reading, taking and closing depend on the
items that were pushed inside the scope and on nothing below it. What is below comes back unchanged
when the scope is closed.
-/

namespace Peg

/-- The kind admits just those items that it can extract. -/
def ItemKind.Faithful {α β : Type} (kind : ItemKind α β) : Prop :=
  ∀ item, kind.admits item = (kind.extract? item).isSome

/-- A kind that admits what a reading succeeds on is faithful. -/
theorem ItemKind.faithful_ofReading {α β : Type} (name : String) (reading : α → Option β) :
    (ItemKind.ofReading name reading).Faithful :=
  fun _ => rfl

/-- What is extracted from an item, if the kind admits the item and does not refuse it then. -/
def ItemKind.value? {α β : Type} (kind : ItemKind α β) (item : α) : Option β :=
  if kind.admits item then kind.extract? item else none

/-- Whether an item can be taken as one of the kind. -/
def ItemKind.takes {α β : Type} (kind : ItemKind α β) (item : α) : Bool :=
  (kind.value? item).isSome

/-- Of a faithful kind, the value of an item is what is extracted from it. -/
theorem ItemKind.Faithful.value?_eq {α β : Type} {kind : ItemKind α β} (h : kind.Faithful) :
    kind.value? = kind.extract? := by
  funext item
  cases hitem : kind.extract? item <;> simp [value?, h item, hitem]

/-- Of a faithful kind, an item can be taken just if it is admitted. -/
theorem ItemKind.Faithful.takes_eq {α β : Type} {kind : ItemKind α β} (h : kind.Faithful) :
    kind.takes = kind.admits := by
  funext item
  rw [takes, h.value?_eq, h item]

namespace ScopedStack

variable {α β : Type} {base : ScopedStack α}

/-- No item carries the tag of a scope that is not open. -/
def Leveled (s : ScopedStack α) : Prop :=
  ∀ entry ∈ s.entries, entry.depth ≤ s.depth

/-- A stack with one more scope, which holds the given items, the latest first. -/
def above (base : ScopedStack α) (items : List α) : ScopedStack α :=
  ⟨items.map (Entry.mk (base.depth + 1)) ++ base.entries, base.depth :: base.floors⟩

/-- On the empty stack no item carries any tag. -/
theorem leveled_empty : (empty : ScopedStack α).Leveled := by
  simp [Leveled, empty]

/-- Opening a scope puts no item in it. -/
theorem enter_eq_above (base : ScopedStack α) : base.enter = base.above [] := rfl

/-- One more scope is open above the base. -/
@[simp] theorem depth_above (base : ScopedStack α) (items : List α) :
    (base.above items).depth = base.depth + 1 := by
  simp [depth, above]

/-- Items in a new scope carry its tag, and no other one. -/
theorem Leveled.above (h : base.Leveled) (items : List α) : (base.above items).Leveled := by
  intro entry hentry
  rw [depth_above]
  rcases List.mem_append.mp hentry with hinside | hbelow
  · obtain ⟨item, _, rfl⟩ := List.mem_map.mp hinside
    exact Nat.le_refl _
  · exact Nat.le_succ_of_le (h entry hbelow)

/-- A pushed item comes in front in the current scope. -/
@[simp] theorem push_above (base : ScopedStack α) (items : List α) (item : α) :
    (base.above items).push item = base.above (item :: items) := by
  rw [push, depth_above]
  rfl

/-- Pushing no items leaves the stack as it is. -/
@[simp] theorem pushAll_nil (s : ScopedStack α) : s.pushAll [] = s := rfl

/-- Items are pushed one after the other. -/
@[simp] theorem pushAll_cons (s : ScopedStack α) (item : α) (items : List α) :
    s.pushAll (item :: items) = (s.push item).pushAll items := rfl

/-- Pushed items come in front in the current scope, the last one first. -/
theorem pushAll_above (base : ScopedStack α) (items more : List α) :
    (base.above items).pushAll more = base.above (more.reverse ++ items) := by
  induction more generalizing items with
  | nil => rfl
  | cons item more ih => simp [ih]

/-- A pushed item carries the tag of a scope that is open. -/
theorem Leveled.push (h : base.Leveled) (item : α) : (base.push item).Leveled := by
  intro entry hentry
  rcases List.mem_cons.mp hentry with rfl | hbelow
  · exact Nat.le_refl _
  · exact h entry hbelow

/-- Pushed items carry the tag of a scope that is open. -/
theorem Leveled.pushAll (h : base.Leveled) (items : List α) : (base.pushAll items).Leveled := by
  induction items generalizing base with
  | nil => exact h
  | cons item items ih => exact ih (h.push item)

/-- Items in two rows are pushed row by row. -/
theorem pushAll_append (s : ScopedStack α) (items more : List α) :
    s.pushAll (items ++ more) = (s.pushAll items).pushAll more :=
  List.foldl_append

/-- What lies below the scope is not visible. -/
theorem Leveled.isVisible_eq_false (h : base.Leveled) {entry : Entry α}
    (hentry : entry ∈ base.entries) (items : List α) :
    (base.above items).isVisible entry = false := by
  have hle := h entry hentry
  simpa [isVisible, ScopedStack.above] using hle

/-- In a new scope no item is visible. -/
theorem top?_above_nil (h : base.Leveled) : (base.above []).top? = none := by
  cases hentries : base.entries with
  | nil => simp [top?, above, hentries]
  | cons entry entries =>
    have hentry : entry ∈ base.entries := by simp [hentries]
    have hhidden := h.isVisible_eq_false hentry []
    simp only [above, List.map_nil, List.nil_append, hentries] at hhidden
    simp [top?, above, hentries, hhidden]

/-- The latest item of the current scope is visible. -/
@[simp] theorem top?_above_cons (base : ScopedStack α) (item : α) (items : List α) :
    (base.above (item :: items)).top? = some item := by
  simp [top?, above, isVisible]

section Kinds

variable {kind : ItemKind α β}

/-- In a new scope there is nothing to pop. -/
theorem tryPop_above_nil (h : base.Leveled) (kind : ItemKind α β) :
    (base.above []).tryPop kind = none := by
  cases hentries : base.entries with
  | nil => simp [tryPop, above, hentries]
  | cons entry entries =>
    have hentry : entry ∈ base.entries := by simp [hentries]
    have hhidden := h.isVisible_eq_false hentry []
    simp only [above, List.map_nil, List.nil_append, hentries] at hhidden
    simp [tryPop, above, hentries, hhidden]

/-- Whether an item is taken off a scope depends on the item alone. -/
theorem tryPop_above_cons (hkind : kind.Faithful) (base : ScopedStack α) (item : α)
    (items : List α) : (base.above (item :: items)).tryPop kind =
      (kind.extract? item).map fun value => (value, base.above items) := by
  have hvisible : (base.above (item :: items)).isVisible ⟨base.depth + 1, item⟩ = true := by
    simp [isVisible, above]
  simp only [above, List.map_cons, List.cons_append] at hvisible
  cases hitem : kind.extract? item with
  | none => simp [tryPop, above, hvisible, hkind item, hitem]
  | some value => simp [tryPop, above, hvisible, hkind item, hitem]

/-- A run among visible items on top of hidden ones is the longest one of items that can be
taken. -/
theorem takeRun_visible (kind : ItemKind α β) {visible : Entry α → Bool} {depth : Nat}
    {items : List α} {below : List (Entry α)}
    (hvisible : ∀ item ∈ items, visible ⟨depth, item⟩ = true)
    (hbelow : ∀ entry ∈ below, visible entry = false) :
    takeRun kind visible (items.map (Entry.mk depth) ++ below) =
      ((items.takeWhile kind.takes).filterMap kind.value?,
        (items.dropWhile kind.takes).map (Entry.mk depth) ++ below) := by
  induction items with
  | nil =>
    cases below with
    | nil => rfl
    | cons entry below => simp [takeRun, hbelow entry List.mem_cons_self]
  | cons item items ih =>
    have hrest := ih fun other hother => hvisible other (List.mem_cons_of_mem _ hother)
    have hvalue : (if visible ⟨depth, item⟩ && kind.admits item then kind.extract? item else none) =
        kind.value? item := by
      simp [hvisible item List.mem_cons_self, ItemKind.value?]
    rw [List.map_cons, List.cons_append, takeRun, hvalue, hrest]
    cases hitem : kind.value? item with
    | none => simp [ItemKind.takes, hitem]
    | some value => simp [ItemKind.takes, hitem]

/-- What is popped in a row are the latest items of the current scope that the kind admits, in the
order in which they were pushed. -/
theorem popRun_above (hkind : kind.Faithful) (h : base.Leveled) (items : List α) :
    (base.above items).popRun kind =
      (((items.takeWhile kind.admits).filterMap kind.extract?).reverse,
        base.above (items.dropWhile kind.admits)) := by
  have hvisible : ∀ item ∈ items,
      (base.above items).isVisible ⟨base.depth + 1, item⟩ = true := by
    simp [isVisible, above]
  have hrun := takeRun_visible kind hvisible fun entry hentry => h.isVisible_eq_false hentry items
  have hentries : (base.above items).entries =
      items.map (Entry.mk (base.depth + 1)) ++ base.entries := rfl
  simp only [popRun, hentries, hrun, hkind.value?_eq, hkind.takes_eq]
  rfl

end Kinds

/-- Closing the scope hands over its items and leaves what was below. -/
theorem exit_above (h : base.Leveled) (items : List α) :
    (base.above items).exit = .ok (items.reverse, base) := by
  have hbelow : ∀ entry ∈ base.entries, ¬ base.depth < entry.depth := fun entry hentry =>
    Nat.not_lt.mpr (h entry hentry)
  have htake : (items.map (Entry.mk (base.depth + 1)) ++ base.entries).takeWhile
      (fun entry => decide (base.depth < entry.depth)) =
        items.map (Entry.mk (base.depth + 1)) := by
    rw [List.takeWhile_append_of_pos (by simp)]
    have hnone : base.entries.takeWhile (fun entry => decide (base.depth < entry.depth)) = [] := by
      cases hentries : base.entries with
      | nil => rfl
      | cons entry entries => simp [hbelow entry (by simp [hentries])]
    rw [hnone, List.append_nil]
  have hdrop := List.takeWhile_append_dropWhile
    (p := fun entry => decide (base.depth < entry.depth))
    (l := items.map (Entry.mk (base.depth + 1)) ++ base.entries)
  rw [htake] at hdrop
  have hrest := List.append_cancel_left hdrop
  simp only [exit, above, htake, hrest]
  simp [Function.comp_def]

end ScopedStack

end Peg
