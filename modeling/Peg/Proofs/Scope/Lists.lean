import Mathlib.Data.List.DropRight
import Peg.Proofs.Scope

/-!
# A stack with scopes is a stack of lists

A stack with scopes keeps all items in one list and finds the current scope by tags and floors.
Seen from outside it is simpler: there is a list of items for every open scope and one for what lies
outside of all scopes, and everything but the opening and closing of scopes happens at the end of
the innermost list. The two cannot be told apart by any sequence of calls.
-/

namespace Peg

variable {α : Type}

namespace ScopedStack

/-- A call of an operation. -/
inductive Call (α : Type) : Type 1 where
  | enter
  | exit
  | push (item : α)
  | pop (β : Type) (kind : ItemKind α β)
  | tryPop (β : Type) (kind : ItemKind α β)
  | peek (β : Type) (kind : ItemKind α β)
  | popRun (β : Type) (kind : ItemKind α β)
  | scopeSize
  | isScopeEmpty

/-- What the caller gets back. -/
def Call.Answer : Call α → Type
  | .enter | .push _ => Unit
  | .exit => Except StackError (List α)
  | .pop β _ => Except StackError β
  | .tryPop β _ => Option β
  | .peek _ _ => Option α
  | .popRun β _ => List β
  | .scopeSize => Nat
  | .isScopeEmpty => Bool

/-- Perform calls one after the other, where `perform` tells what a single one does. -/
def Call.performAll {σ : Type} (perform : σ → (c : Call α) → c.Answer × σ) :
    σ → List (Call α) → List ((c : Call α) × c.Answer) × σ
  | s, [] => ([], s)
  | s, c :: calls =>
    let (answer, s) := perform s c
    let (answers, s) := performAll perform s calls
    (⟨c, answer⟩ :: answers, s)

/-- A call on a stack with scopes. A call that fails leaves the stack as it is. -/
def perform (describe : α → String) (s : ScopedStack α) : (c : Call α) → c.Answer × ScopedStack α
  | .enter => ((), s.enter)
  | .exit =>
    match s.exit with
    | .ok (items, s) => (.ok items, s)
    | .error e => (.error e, s)
  | .push item => ((), s.push item)
  | .pop _ kind =>
    match s.pop describe kind with
    | .ok (value, s) => (.ok value, s)
    | .error e => (.error e, s)
  | .tryPop _ kind =>
    match s.tryPop kind with
    | some (value, s) => (some value, s)
    | none => (none, s)
  | .peek _ kind => (s.peek? kind, s)
  | .popRun _ kind => s.popRun kind
  | .scopeSize => (s.scopeSize, s)
  | .isScopeEmpty => (s.isScopeEmpty, s)

end ScopedStack

/-- A list of items for every open scope, and one for what is outside of all scopes. Items stand in
the order in which they were pushed. -/
structure ScopeLists (α : Type) where
  innermost : List α
  /-- The lists around it, the nearest one first. -/
  outer : List (List α)

namespace ScopeLists

open ScopedStack

/-- Without items and without open scopes. -/
def empty : ScopeLists α :=
  ⟨[], []⟩

/-- The last item of the innermost list as one of a kind, with the lists without it. -/
def tryPop {β : Type} (l : ScopeLists α) (kind : ItemKind α β) : Option (β × ScopeLists α) :=
  (l.innermost.getLast?.bind kind.value?).map fun value =>
    (value, { l with innermost := l.innermost.dropLast })

/-- A call on a stack of lists. Only opening and closing a scope has to do with the outer lists. -/
def perform (describe : α → String) (l : ScopeLists α) : (c : Call α) → c.Answer × ScopeLists α
  | .enter => ((), ⟨[], l.innermost :: l.outer⟩)
  | .exit =>
    match l.outer with
    | [] => (.error .noOpenScope, l)
    | next :: outer => (.ok l.innermost, ⟨next, outer⟩)
  | .push item => ((), { l with innermost := l.innermost ++ [item] })
  | .pop _ kind =>
    match l.innermost.getLast? with
    | none => (.error (.empty kind.name), l)
    | some item =>
      match l.tryPop kind with
      | some (value, l) => (.ok value, l)
      | none => (.error (.mismatch kind.name (describe item)), l)
  | .tryPop _ kind =>
    match l.tryPop kind with
    | some (value, l) => (some value, l)
    | none => (none, l)
  | .peek _ kind => (l.innermost.getLast?.filter kind.admits, l)
  | .popRun _ kind =>
    ((l.innermost.rtakeWhile kind.takes).filterMap kind.value?,
      { l with innermost := l.innermost.rdropWhile kind.takes })
  | .scopeSize => (l.innermost.length, l)
  | .isScopeEmpty => (l.innermost.isEmpty, l)

end ScopeLists

namespace ScopedStack

/-- Items of the current scope, the latest first, on top of other entries. -/
def onTop (below : List (Entry α)) (floors : List Nat) (items : List α) : ScopedStack α :=
  ⟨items.map (Entry.mk floors.length) ++ below, floors⟩

/-- With these floors, what is pushed is visible, and the entries are not. -/
structure Hides (floors : List Nat) (below : List (Entry α)) : Prop where
  visible : ∀ items item, (onTop below floors items).isVisible ⟨floors.length, item⟩ = true
  hidden : ∀ items, ∀ entry ∈ below, (onTop below floors items).isVisible entry = false

/-- Without any entries there is nothing to hide. -/
theorem hides_nil : Hides [] ([] : List (Entry α)) :=
  ⟨fun _ _ => rfl, fun _ _ h => nomatch h⟩

/-- A new scope hides all items of a leveled stack. -/
theorem Leveled.hides {base : ScopedStack α} (h : base.Leveled) :
    Hides (base.depth :: base.floors) base.entries where
  visible items item := by simp [isVisible, onTop, depth]
  hidden items entry hentry := h.isVisible_eq_false hentry items

namespace Hides

variable {β : Type} {floors : List Nat} {below : List (Entry α)}

/-- The latest item is the first one on top of what is hidden. -/
theorem top? (h : Hides floors below) (items : List α) :
    (onTop below floors items).top? = items.head? := by
  cases items with
  | nil =>
    cases below with
    | nil => rfl
    | cons entry below => simpa [ScopedStack.top?, onTop] using h.hidden [] entry (by simp)
  | cons item items => simpa [ScopedStack.top?, onTop] using h.visible (item :: items) item

/-- What is hidden cannot be popped. -/
theorem tryPop_nil (h : Hides floors below) (kind : ItemKind α β) :
    (onTop below floors []).tryPop kind = none := by
  cases below with
  | nil => rfl
  | cons entry below =>
    have hhidden := h.hidden [] entry (by simp)
    simp only [onTop, List.map_nil, List.nil_append] at hhidden
    simp [tryPop, onTop, hhidden]

/-- The latest item is popped if it can be taken as one of the kind. -/
theorem tryPop_cons (h : Hides floors below) (kind : ItemKind α β) (item : α) (items : List α) :
    (onTop below floors (item :: items)).tryPop kind =
      (kind.value? item).map fun value => (value, onTop below floors items) := by
  have hvisible := h.visible (item :: items) item
  simp only [onTop, List.map_cons, List.cons_append] at hvisible
  simp only [tryPop, onTop, List.map_cons, List.cons_append, hvisible, Bool.true_and,
    ItemKind.value?]
  split <;> rfl

/-- A row of items is popped from the top up to the first that cannot be taken, and not from what is
hidden. -/
theorem popRun (h : Hides floors below) (kind : ItemKind α β) (items : List α) :
    (onTop below floors items).popRun kind =
      (((items.takeWhile kind.takes).filterMap kind.value?).reverse,
        onTop below floors (items.dropWhile kind.takes)) := by
  have hrun := takeRun_visible kind (fun item (_ : item ∈ items) => h.visible items item)
    (h.hidden items)
  have hentries : (onTop below floors items).entries =
      items.map (Entry.mk floors.length) ++ below := rfl
  simp only [ScopedStack.popRun, hentries, hrun]
  rfl

/-- The size of a scope is the number of items on top of what is hidden. -/
theorem scopeSize (h : Hides floors below) (items : List α) :
    (onTop below floors items).scopeSize = items.length := by
  have hbelow : below.takeWhile (onTop below floors items).isVisible = [] := by
    cases below with
    | nil => rfl
    | cons entry below => simp [h.hidden items entry]
  have hentries : (onTop below floors items).entries =
      items.map (Entry.mk floors.length) ++ below := rfl
  rw [ScopedStack.scopeSize, hentries, List.takeWhile_append_of_pos, hbelow]
  · simp
  · intro entry hentry
    obtain ⟨item, _, rfl⟩ := List.mem_map.mp hentry
    exact h.visible items item

end Hides

end ScopedStack

namespace ScopeLists

open ScopedStack

/-- The stack with scopes that keeps the innermost list, the latest item first, and the outer
lists. -/
def stackOf : List α → List (List α) → ScopedStack α
  | innermost, [] => onTop [] [] innermost.reverse
  | innermost, next :: outer => (stackOf next outer).above innermost.reverse

/-- The stack with scopes that keeps the lists. -/
def toStack (l : ScopeLists α) : ScopedStack α :=
  stackOf l.innermost l.outer

/-- The floors are the numbers of the scopes, the innermost first. -/
theorem floors_stackOf (innermost : List α) (outer : List (List α)) :
    (stackOf innermost outer).floors = (List.range outer.length).reverse := by
  induction outer generalizing innermost with
  | nil => rfl
  | cons next outer ih =>
    simp [stackOf, above, ih, ScopedStack.depth, List.range_succ]

/-- The items of each list carry the tag of their scope. -/
theorem leveled_stackOf (innermost : List α) (outer : List (List α)) :
    (stackOf innermost outer).Leveled := by
  induction outer generalizing innermost with
  | nil =>
    intro entry hentry
    simp only [stackOf, onTop, List.append_nil] at hentry
    obtain ⟨item, _, rfl⟩ := List.mem_map.mp hentry
    exact Nat.zero_le _
  | cons next outer ih => exact (ih next).above _

/-- Items with the same tag are sorted by their tags. -/
theorem depths_map_mk (depth : Nat) (items : List α) :
    ((items.map (Entry.mk depth)).map Entry.depth).Pairwise (· ≥ ·) := by
  rw [List.map_map]
  exact List.pairwise_map.mpr (List.pairwise_of_forall fun _ _ => Nat.le_refl depth)

/-- From the latest item on, the tags never increase. -/
theorem depths_stackOf (innermost : List α) (outer : List (List α)) :
    ((stackOf innermost outer).entries.map Entry.depth).Pairwise (· ≥ ·) := by
  induction outer generalizing innermost with
  | nil =>
    simp only [stackOf, onTop, List.append_nil]
    exact depths_map_mk _ _
  | cons next outer ih =>
    have hbelow := leveled_stackOf next outer
    simp only [stackOf, above, List.map_append, List.pairwise_append]
    refine ⟨depths_map_mk _ _, ih next, ?_⟩
    rintro _ hinside _ houtside
    obtain ⟨_, htagged, rfl⟩ := List.mem_map.mp hinside
    obtain ⟨_, _, rfl⟩ := List.mem_map.mp htagged
    obtain ⟨entry, hentry, rfl⟩ := List.mem_map.mp houtside
    exact Nat.le_succ_of_le (hbelow entry hentry)

/-- Everything but the innermost list stands for entries that are not visible. -/
theorem exists_stackOf_eq_onTop (outer : List (List α)) :
    ∃ floors below, Hides floors below ∧
      ∀ innermost : List α, stackOf innermost outer = onTop below floors innermost.reverse := by
  cases outer with
  | nil => exact ⟨[], [], hides_nil, fun _ => rfl⟩
  | cons next outer => exact ⟨_, _, (leveled_stackOf next outer).hides, fun _ => rfl⟩

/-- Closing a scope of the stack is giving up the innermost list. -/
theorem exit_toStack (l : ScopeLists α) (describe : α → String) :
    l.toStack.perform describe .exit =
      ((l.perform describe .exit).1, (l.perform describe .exit).2.toStack) := by
  obtain ⟨innermost, outer⟩ := l
  cases outer with
  | nil => rfl
  | cons next outer =>
    simp only [toStack, stackOf, ScopedStack.perform, exit_above (leveled_stackOf next outer),
      List.reverse_reverse]
    rfl

/-- An item is popped from the stack as from the innermost list. -/
theorem tryPop_toStack {β : Type} (l : ScopeLists α) (kind : ItemKind α β) :
    l.toStack.tryPop kind = (l.tryPop kind).map (Prod.map id toStack) := by
  obtain ⟨innermost, outer⟩ := l
  obtain ⟨floors, below, hhides, hstack⟩ := exists_stackOf_eq_onTop outer
  rcases List.eq_nil_or_concat innermost with rfl | ⟨init, item, rfl⟩
  · simp [toStack, tryPop, hstack, hhides.tryPop_nil]
  · simp [toStack, tryPop, hstack, hhides.tryPop_cons, Function.comp_def]

/-- The latest item of the stack is the last one of the innermost list. -/
theorem top?_toStack (l : ScopeLists α) : l.toStack.top? = l.innermost.getLast? := by
  obtain ⟨floors, below, hhides, hstack⟩ := exists_stackOf_eq_onTop l.outer
  rw [toStack, hstack, hhides.top?, List.head?_reverse]

/-- A call on the stack that keeps the lists does what the call does to the lists. -/
theorem perform_toStack (describe : α → String) (l : ScopeLists α) (c : Call α) :
    l.toStack.perform describe c =
      ((l.perform describe c).1, (l.perform describe c).2.toStack) := by
  obtain ⟨floors, below, hhides, hstack⟩ := exists_stackOf_eq_onTop l.outer
  cases c with
  | enter => rfl
  | exit => exact l.exit_toStack describe
  | push item => simp [ScopedStack.perform, perform, toStack, hstack, push, onTop, depth]
  | pop β kind =>
    simp only [ScopedStack.perform, perform, pop, top?_toStack, tryPop_toStack]
    cases l.innermost.getLast? with
    | none => rfl
    | some item => cases l.tryPop kind <;> rfl
  | tryPop β kind =>
    simp only [ScopedStack.perform, perform, tryPop_toStack]
    cases l.tryPop kind <;> rfl
  | peek β kind => simp [ScopedStack.perform, perform, peek?, top?_toStack]
  | popRun β kind =>
    simp only [ScopedStack.perform, perform, toStack, hstack, hhides.popRun, List.rtakeWhile,
      List.rdropWhile, List.filterMap_reverse, List.reverse_reverse]
    rfl
  | scopeSize => simp [ScopedStack.perform, perform, toStack, hstack, hhides.scopeSize]
  | isScopeEmpty =>
    have hempty : l.toStack.isScopeEmpty = l.innermost.isEmpty := by
      rw [isScopeEmpty, top?_toStack, Bool.eq_iff_iff]
      simp
    exact congrArg (·, l.toStack) hempty

/-- Calls on the stack have the answers that they have on the lists, one after the other. -/
theorem performAll_toStack (describe : α → String) (l : ScopeLists α) (calls : List (Call α)) :
    Call.performAll (ScopedStack.perform describe) l.toStack calls =
      ((Call.performAll (perform describe) l calls).1,
        (Call.performAll (perform describe) l calls).2.toStack) := by
  induction calls generalizing l with
  | nil => rfl
  | cons c calls ih =>
    simp only [Call.performAll, perform_toStack, ih]

end ScopeLists

/-- On a stack that starts empty, any sequence of calls with items of any kinds gives the same
answers as on a stack of lists. The floors of the open scopes are always counted up from zero, and
the tags of the items never decrease towards the top. -/
theorem ScopedStack.refines_lists (describe : α → String) (calls : List (Call α)) :
    let onStack := Call.performAll (perform describe) empty calls
    let onLists := Call.performAll (ScopeLists.perform describe) ScopeLists.empty calls
    onStack.1 = onLists.1 ∧
    onStack.2.depth = onLists.2.outer.length ∧
    onStack.2.floors.reverse = List.range onStack.2.depth ∧
    (onStack.2.entries.reverse.map Entry.depth).Pairwise (· ≤ ·) := by
  have hcalls := ScopeLists.performAll_toStack describe ScopeLists.empty calls
  have hempty : (ScopeLists.empty : ScopeLists α).toStack = empty := rfl
  rw [hempty] at hcalls
  intro onStack onLists
  have hstack : onStack.2 = onLists.2.toStack := congrArg Prod.snd hcalls
  have hfloors : onStack.2.floors = (List.range onLists.2.outer.length).reverse := by
    rw [hstack, ScopeLists.toStack, ScopeLists.floors_stackOf]
  have hdepth : onStack.2.depth = onLists.2.outer.length := by
    rw [depth, hfloors, List.length_reverse, List.length_range]
  refine ⟨congrArg Prod.fst hcalls, hdepth, ?_, ?_⟩
  · rw [hfloors, List.reverse_reverse, hdepth]
  · rw [List.map_reverse, List.pairwise_reverse, hstack]
    exact ScopeLists.depths_stackOf _ _

end Peg
