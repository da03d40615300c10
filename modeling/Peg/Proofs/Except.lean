/-!
# Computations that may fail

How a computation in several parts ends is determined by how its parts end.
-/

namespace Peg

variable {ε α β : Type}

/-- Two parts in a row have a result if both have. -/
theorem bind_eq_ok_iff {x : Except ε α} {f : α → Except ε β} {b : β} :
    x >>= f = .ok b ↔ ∃ a, x = .ok a ∧ f a = .ok b := by
  cases x with
  | error e => simp [bind, Except.bind]
  | ok a => simp [bind, Except.bind]

/-- Two parts in a row fail if the first one does, or else the second. -/
theorem bind_eq_error_iff {x : Except ε α} {f : α → Except ε β} {e : ε} :
    x >>= f = .error e ↔ x = .error e ∨ ∃ a, x = .ok a ∧ f a = .error e := by
  cases x with
  | error e => simp [bind, Except.bind]
  | ok a => simp [bind, Except.bind]

/-- A computation in two parts has a result if the first part has one that the second part can go
on from. -/
theorem exists_bind_eq_ok_iff {x : Except ε α} {f : α → Except ε β} :
    (∃ b, x >>= f = .ok b) ↔ ∃ a, x = .ok a ∧ ∃ b, f a = .ok b := by
  cases x with
  | error e => simp [bind, Except.bind]
  | ok a => simp [bind, Except.bind]

/-- A result is one that was changed. -/
theorem map_eq_ok_iff {x : Except ε α} {f : α → β} {b : β} :
    x.map f = .ok b ↔ ∃ a, x = .ok a ∧ f a = b := by
  cases x with
  | error e => simp [Except.map]
  | ok a => simp [Except.map]

/-- Changing results changes no failure. -/
theorem map_eq_error_iff {x : Except ε α} {f : α → β} {e : ε} :
    x.map f = .error e ↔ x = .error e := by
  cases x with
  | error e' => simp [Except.map]
  | ok a => simp [Except.map]

/-- Changing failures changes no result. -/
theorem mapError_eq_ok_iff {ε' : Type} {x : Except ε α} {f : ε → ε'} {a : α} :
    x.mapError f = .ok a ↔ x = .ok a := by
  cases x with
  | error cause => exact ⟨fun h => (nomatch h), fun h => (nomatch h)⟩
  | ok b =>
    constructor
    · rintro ⟨⟩
      rfl
    · rintro ⟨⟩
      rfl

/-- A failure is one that was changed. -/
theorem mapError_eq_error_iff {ε' : Type} {x : Except ε α} {f : ε → ε'} {e : ε'} :
    x.mapError f = .error e ↔ ∃ e', x = .error e' ∧ f e' = e := by
  cases x with
  | error cause =>
    constructor
    · rintro ⟨⟩
      exact ⟨cause, rfl, rfl⟩
    · rintro ⟨_, ⟨⟩, rfl⟩
      rfl
  | ok a => exact ⟨fun h => (nomatch h), fun ⟨_, h, _⟩ => (nomatch h)⟩

/-- A result is handed on. -/
@[simp] theorem ok_bind (a : α) (f : α → Except ε β) : .ok a >>= f = f a := rfl

/-- A translation of results goes through a computation in two parts if it goes through both. -/
theorem map_bind_eq_map {α' β' : Type} {x : Except ε α} {h : α → α'} {f : α' → Except ε β'}
    {g : α → Except ε β} {k : β → β'} (hfg : ∀ a, f (h a) = (g a).map k) :
    x.map h >>= f = (x >>= g).map k := by
  cases x with
  | error e => rfl
  | ok a => exact hfg a

/-- If every member of a list has a result then the results stand in the same order. -/
theorem exists_getElem?_of_mapM_eq_ok {f : α → Except ε β} {l : List α} {results : List β}
    (h : l.mapM f = .ok results) {i : Nat} {a : α} (ha : l[i]? = some a) :
    ∃ b, results[i]? = some b ∧ f a = .ok b := by
  induction l generalizing results i with
  | nil => simp at ha
  | cons x l ih =>
    rw [List.mapM_cons, bind_eq_ok_iff] at h
    obtain ⟨y, hy, h⟩ := h
    rw [bind_eq_ok_iff] at h
    obtain ⟨ys, hys, h⟩ := h
    cases h
    cases i with
    | zero =>
      cases ha
      exact ⟨y, rfl, hy⟩
    | succ i => exact ih hys ha

/-- There is a result for each element. -/
theorem length_of_mapM_eq_ok {f : α → Except ε β} {l : List α} {results : List β}
    (h : l.mapM f = .ok results) : results.length = l.length := by
  induction l generalizing results with
  | nil =>
    cases h
    rfl
  | cons x l ih =>
    rw [List.mapM_cons, bind_eq_ok_iff] at h
    obtain ⟨y, _, h⟩ := h
    rw [bind_eq_ok_iff] at h
    obtain ⟨ys, hys, h⟩ := h
    cases h
    simp [ih hys]

/-- Every result for a list is one for a member of it. -/
theorem exists_mem_of_mem_of_mapM_eq_ok {f : α → Except ε β} {l : List α} {results : List β}
    (h : l.mapM f = .ok results) {b : β} (hb : b ∈ results) : ∃ a ∈ l, f a = .ok b := by
  obtain ⟨i, hlt, rfl⟩ := List.getElem_of_mem hb
  have hi : i < l.length := length_of_mapM_eq_ok h ▸ hlt
  obtain ⟨b, hresult, hfa⟩ := exists_getElem?_of_mapM_eq_ok h (List.getElem?_eq_getElem hi)
  obtain rfl : results[i] = b := Option.some.inj ((List.getElem?_eq_getElem hlt).symm.trans hresult)
  exact ⟨l[i], List.getElem_mem hi, hfa⟩

/-- What the results share with the members that they belong to, the two lists share. -/
theorem map_eq_map_of_mapM_eq_ok {γ : Type} {f : α → Except ε β} {p : α → γ} {q : β → γ}
    (hpq : ∀ {a b}, f a = .ok b → q b = p a) {l : List α} {results : List β}
    (h : l.mapM f = .ok results) : results.map q = l.map p := by
  induction l generalizing results with
  | nil =>
    cases h
    rfl
  | cons x l ih =>
    rw [List.mapM_cons, bind_eq_ok_iff] at h
    obtain ⟨y, hy, h⟩ := h
    rw [bind_eq_ok_iff] at h
    obtain ⟨ys, hys, h⟩ := h
    cases h
    rw [List.map_cons, List.map_cons, hpq hy, ih hys]

/-- A list has results if every member has one. -/
theorem exists_mapM_eq_ok_iff {f : α → Except ε β} {l : List α} :
    (∃ results, l.mapM f = .ok results) ↔ ∀ a ∈ l, ∃ b, f a = .ok b := by
  induction l with
  | nil => exact ⟨fun _ => by simp, fun _ => ⟨[], rfl⟩⟩
  | cons x l ih =>
    simp only [List.mapM_cons, exists_bind_eq_ok_iff, List.forall_mem_cons, ← ih]
    constructor
    · rintro ⟨y, hy, ys, hys, _⟩
      exact ⟨⟨y, hy⟩, ys, hys⟩
    · rintro ⟨⟨y, hy⟩, ys, hys⟩
      exact ⟨y, hy, ys, hys, y :: ys, rfl⟩

/-- An error for a list is one for a member of it. -/
theorem exists_mem_of_mapM_eq_error {f : α → Except ε β} {l : List α} {e : ε}
    (h : l.mapM f = .error e) : ∃ a ∈ l, f a = .error e := by
  induction l with
  | nil => cases h
  | cons x l ih =>
    rw [List.mapM_cons, bind_eq_error_iff] at h
    rcases h with hx | ⟨y, _, h⟩
    · exact ⟨x, List.mem_cons_self, hx⟩
    · rw [bind_eq_error_iff] at h
      rcases h with hl | ⟨ys, _, h⟩
      · obtain ⟨a, ha, hfa⟩ := ih hl
        exact ⟨a, List.mem_cons_of_mem _ ha, hfa⟩
      · cases h

/-- If the computation has a result, it satisfies `P`. -/
def Ensures (P : α → Prop) (x : Except ε α) : Prop :=
  ∀ a, x = .ok a → P a

/-- A result has to satisfy the property. -/
theorem ensures_ok {P : α → Prop} {a : α} (h : P a) : Ensures P (.ok a : Except ε α) := by
  rintro b ⟨⟩
  exact h

/-- Without a result there is nothing to satisfy. -/
theorem ensures_error {P : α → Prop} {e : ε} : Ensures P (.error e) :=
  fun _ h => nomatch h

/-- The results of two parts in a row satisfy what the second part ensures on those of the first. -/
theorem Ensures.bind {P : α → Prop} {Q : β → Prop} {x : Except ε α} {f : α → Except ε β}
    (hx : Ensures P x) (hf : ∀ a, P a → Ensures Q (f a)) : Ensures Q (x >>= f) := by
  intro b h
  obtain ⟨a, ha, hb⟩ := bind_eq_ok_iff.mp h
  exact hf a (hx a ha) b hb

end Peg
