import Mathlib.Data.List.Forall2

/-!
# Computations that may fail

A computation in two parts succeeds if both parts do, and it fails as the first part that fails. So
does a list of computations, whose results are those of each of them.
-/

namespace StepPipeline

variable {ε α β : Type}

/-! ## Two parts -/

/-- A computation that succeeds has a first part that does. -/
theorem Except.bind_eq_ok {x : Except ε α} {f : α → Except ε β} {b : β}
    (h : x >>= f = .ok b) : ∃ a, x = .ok a ∧ f a = .ok b := by
  cases x with
  | error e => cases h
  | ok a => exact ⟨a, rfl, h⟩

/-- A computation that fails does so in its first part or behind it. -/
theorem Except.bind_eq_error {x : Except ε α} {f : α → Except ε β} {e : ε}
    (h : x >>= f = .error e) : x = .error e ∨ ∃ a, x = .ok a ∧ f a = .error e := by
  cases x with
  | error e' => exact .inl (congrArg _ (Except.error.inj h))
  | ok a => exact .inr ⟨a, rfl, h⟩

/-! ## Lists -/

/-- The results of a list of computations that all succeed, one by one. -/
theorem List.getElem?_of_mapM_eq_ok {f : α → Except ε β} {xs : List α}
    {ys : List β} (h : xs.mapM f = .ok ys) (i : Nat) :
    (∃ x y, xs[i]? = some x ∧ ys[i]? = some y ∧ f x = .ok y) ∨ xs[i]? = none ∧ ys[i]? = none := by
  induction xs generalizing ys i with
  | nil =>
      obtain rfl := Except.ok.inj h
      exact .inr ⟨rfl, rfl⟩
  | cons x xs ih =>
      rw [List.mapM_cons] at h
      obtain ⟨y, hy, h⟩ := Except.bind_eq_ok h
      obtain ⟨rest, hrest, h⟩ := Except.bind_eq_ok h
      obtain rfl := Except.ok.inj h
      cases i with
      | zero => exact .inl ⟨x, y, rfl, rfl, hy⟩
      | succ i => exact ih hrest i

/-- A list of computations succeeds exactly if each of them does. -/
theorem List.exists_mapM_eq_ok_iff {f : α → Except ε β} {xs : List α} :
    (∃ ys, xs.mapM f = .ok ys) ↔ ∀ x ∈ xs, ∃ y, f x = .ok y := by
  induction xs with
  | nil => exact iff_of_true ⟨[], rfl⟩ fun x hx => absurd hx List.not_mem_nil
  | cons x xs ih =>
      rw [List.mapM_cons, List.forall_mem_cons, ← ih]
      constructor
      · rintro ⟨ys, h⟩
        obtain ⟨y, hy, h⟩ := Except.bind_eq_ok h
        obtain ⟨rest, hrest, -⟩ := Except.bind_eq_ok h
        exact ⟨⟨y, hy⟩, rest, hrest⟩
      · rintro ⟨⟨y, hy⟩, rest, hrest⟩
        exact ⟨y :: rest, by rw [hy, hrest]; rfl⟩

/-- A list of computations fails as one of them does. -/
theorem List.exists_mem_of_mapM_eq_error {f : α → Except ε β} {xs : List α} {e : ε}
    (h : xs.mapM f = .error e) : ∃ x ∈ xs, f x = .error e := by
  induction xs with
  | nil => cases h
  | cons x xs ih =>
      rw [List.mapM_cons] at h
      rcases Except.bind_eq_error h with hx | ⟨y, -, h⟩
      · exact ⟨x, List.mem_cons_self, hx⟩
      · rcases Except.bind_eq_error h with hrest | ⟨ys, -, h⟩
        · obtain ⟨x', hx', he⟩ := ih hrest
          exact ⟨x', List.mem_cons_of_mem _ hx', he⟩
        · cases h

/-- The one fact about lists of partial readers that the others are read off. -/
theorem List.mapM_eq_some_iff_forall₂ {f : α → Option β} {xs : List α} {ys : List β} :
    xs.mapM f = some ys ↔ List.Forall₂ (fun x y => f x = some y) xs ys := by
  induction xs generalizing ys with
  | nil => simp [eq_comm]
  | cons x xs ih =>
      rw [List.mapM_cons, List.forall₂_cons_left_iff]
      constructor
      · intro h
        obtain ⟨y, hy, h⟩ := Option.bind_eq_some_iff.mp h
        obtain ⟨rest, hrest, h⟩ := Option.bind_eq_some_iff.mp h
        exact ⟨y, rest, hy, ih.mp hrest, (Option.some.inj h).symm⟩
      · rintro ⟨y, rest, hy, hrest, rfl⟩
        rw [hy, ih.mpr hrest]
        rfl

/-- Every result is that of one of the computations. -/
theorem List.exists_of_mem_mapM {f : α → Option β} {xs : List α} {ys : List β}
    (h : xs.mapM f = some ys) {y : β} (hy : y ∈ ys) : ∃ x ∈ xs, f x = some y := by
  replace h := List.mapM_eq_some_iff_forall₂.mp h
  induction h with
  | nil => cases hy
  | @cons x z xs ys hx _ ih =>
      rcases List.mem_cons.mp hy with rfl | hy
      · exact ⟨x, List.mem_cons_self, hx⟩
      · obtain ⟨x', hx', hfound⟩ := ih hy
        exact ⟨x', List.mem_cons_of_mem _ hx', hfound⟩

/-- A list is read back exactly if each item is. -/
theorem List.mapM_map_eq_some_iff {write : α → β} {read : β → Option α} {xs : List α} :
    (xs.map write).mapM read = some xs ↔ ∀ x ∈ xs, read (write x) = some x := by
  rw [List.mapM_eq_some_iff_forall₂, List.forall₂_map_left_iff, List.forall₂_same]

end StepPipeline
