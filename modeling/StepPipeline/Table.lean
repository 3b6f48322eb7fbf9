/-!
# Tables

A table maps names to values. It is a list of entries in increasing order of their names
(Unicode scalar values, compared from left to right), so two tables with the same entries are
the same list, and a table is always shown in one order.

`Table.insert` replaces an entry or puts a new one in front of the first greater name. The
laws of looking up after inserting and erasing hold of every list of entries; `Table.Sorted` is the
invariant that all operations keep.
-/

namespace StepPipeline

universe u v

/-- Named values, in increasing order of their names. -/
abbrev Table (α : Type u) : Type u := List (String × α)

namespace Table

variable {α : Type u} {β : Type v}

def find? : Table α → String → Option α
  | [], _ => none
  | (k, v) :: rest, key => if k = key then some v else find? rest key

def contains (t : Table α) (key : String) : Bool := (find? t key).isSome

/-- Put `value` under `key`, replacing the entry of that name if there is one. -/
def insert : Table α → String → α → Table α
  | [], key, value => [(key, value)]
  | (k, v) :: rest, key, value =>
    if k = key then (key, value) :: rest
    else if key < k then (key, value) :: (k, v) :: rest
    else (k, v) :: insert rest key value

def erase (t : Table α) (key : String) : Table α := t.filter fun e => decide (e.1 ≠ key)

/-- Write all entries of `u`, in order, over those of `t`. -/
def overlay (t u : Table α) : Table α := u.foldl (fun t e => insert t e.1 e.2) t

/-- The table with the given entries; of two with one name the later wins. -/
def ofList (entries : List (String × α)) : Table α := overlay [] entries

def keys (t : Table α) : List String := t.map (·.1)

def mapValues (f : α → β) (t : Table α) : Table β := t.map fun e => (e.1, f e.2)

def filterKeys (p : String → Bool) (t : Table α) : Table α := t.filter fun e => p e.1

/-- Keep, of all entries with one name, the last. -/
def lastWins : List (String × α) → List (String × α)
  | [] => []
  | e :: rest => if contains rest e.1 then lastWins rest else e :: lastWins rest

/-- The names increase strictly. -/
def Sorted (t : Table α) : Prop := t.Pairwise fun a b => a.1 < b.1

/-! ### Looking up -/

@[simp] theorem find?_nil (key : String) : find? ([] : Table α) key = none := rfl

theorem find?_cons (k : String) (v : α) (rest : Table α) (key : String) :
    find? ((k, v) :: rest) key = if k = key then some v else find? rest key := rfl

@[simp] theorem find?_insert_self (t : Table α) (key : String) (value : α) :
    find? (insert t key value) key = some value := by
  induction t with
  | nil => simp [insert, find?]
  | cons e rest ih =>
    obtain ⟨k, v⟩ := e
    simp only [insert]
    split
    · simp [find?]
    · split
      · simp [find?]
      · next hne _ => simp [find?, hne, ih]

theorem find?_insert_of_ne (t : Table α) {key other : String} (value : α) (h : other ≠ key) :
    find? (insert t key value) other = find? t other := by
  induction t with
  | nil => simp [insert, find?, Ne.symm h]
  | cons e rest ih =>
    obtain ⟨k, v⟩ := e
    simp only [insert]
    split
    · next hk => subst hk; simp [find?, Ne.symm h]
    · split
      · simp [find?, Ne.symm h]
      · simp only [find?, ih]

theorem find?_insert (t : Table α) (key other : String) (value : α) :
    find? (insert t key value) other = if other = key then some value else find? t other := by
  split
  · next h => subst h; simp
  · next h => exact find?_insert_of_ne t value h

theorem find?_erase (t : Table α) (key other : String) :
    find? (erase t key) other = if other = key then none else find? t other := by
  induction t with
  | nil => simp [erase]
  | cons e rest ih =>
    obtain ⟨k, v⟩ := e
    simp only [erase, List.filter_cons] at ih ⊢
    by_cases hk : k = key
    · subst hk
      simp only [ne_eq, not_true_eq_false, decide_false, Bool.false_eq_true, if_false, ih,
        find?_cons]
      by_cases ho : other = k
      · simp [ho]
      · simp [ho, Ne.symm ho]
    · simp only [ne_eq, hk, not_false_eq_true, decide_true, if_true, find?_cons, ih]
      by_cases hko : k = other
      · subst hko; simp [hk]
      · simp [hko]

@[simp] theorem find?_mapValues (f : α → β) (t : Table α) (key : String) :
    find? (mapValues f t) key = (find? t key).map f := by
  induction t with
  | nil => rfl
  | cons e rest ih =>
    obtain ⟨k, v⟩ := e
    simp only [mapValues, List.map_cons, find?_cons] at ih ⊢
    split <;> simp_all

/-! ### Order -/

@[simp] theorem sorted_nil : Sorted ([] : Table α) := List.Pairwise.nil

/-- Inserting adds no name but the one inserted. -/
theorem mem_keys_insert {t : Table α} {key : String} {value : α} {e : String × α}
    (h : e ∈ insert t key value) : e = (key, value) ∨ e ∈ t := by
  induction t with
  | nil => simpa [insert] using h
  | cons f rest ih =>
    obtain ⟨k, v⟩ := f
    simp only [insert] at h
    split at h
    · rcases List.mem_cons.1 h with h | h
      · exact .inl h
      · exact .inr (List.mem_cons_of_mem _ h)
    · split at h
      · rcases List.mem_cons.1 h with h | h
        · exact .inl h
        · exact .inr h
      · rcases List.mem_cons.1 h with h | h
        · exact .inr (h ▸ List.mem_cons_self)
        · exact (ih h).imp id (List.mem_cons_of_mem _)

theorem sorted_insert {t : Table α} (h : Sorted t) (key : String) (value : α) :
    Sorted (insert t key value) := by
  induction t with
  | nil => simp [insert, Sorted]
  | cons f rest ih =>
    obtain ⟨k, v⟩ := f
    obtain ⟨hk, hrest⟩ := List.pairwise_cons.1 h
    simp only [insert]
    split
    · next heq => subst heq; exact List.pairwise_cons.2 ⟨hk, hrest⟩
    · next hne =>
      split
      · next hlt =>
        refine List.pairwise_cons.2 ⟨fun e he => ?_, h⟩
        rcases List.mem_cons.1 he with rfl | he
        · exact hlt
        · exact String.lt_trans hlt (hk e he)
      · next hge =>
        refine List.pairwise_cons.2 ⟨fun e he => ?_, ih hrest⟩
        rcases mem_keys_insert he with rfl | he
        · rcases Classical.em (k < key) with hlt | hge'
          · exact hlt
          · exact absurd (String.le_antisymm hge' hge) (Ne.symm hne)
        · exact hk e he

theorem sorted_erase {t : Table α} (h : Sorted t) (key : String) : Sorted (erase t key) :=
  List.Pairwise.filter _ h

theorem sorted_overlay {t : Table α} (h : Sorted t) (u : Table α) : Sorted (overlay t u) := by
  induction u generalizing t with
  | nil => exact h
  | cons e rest ih => exact ih (sorted_insert h e.1 e.2)

theorem sorted_ofList (entries : List (String × α)) : Sorted (ofList entries) :=
  sorted_overlay sorted_nil entries

end Table
end StepPipeline
