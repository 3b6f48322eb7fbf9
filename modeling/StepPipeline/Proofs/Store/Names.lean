import StepPipeline.Table

/-!
# Tables whose names occur once

Every table that is written by `Table.insert` is sorted, so a name occurs in it once. A table that
was given by a description is only known to have that: no name twice. This is enough to look
through the ways in which records are put together, overlaying one with another (`find?_overlay`)
and changing or dropping values one by one (`find?_filterMap`). Of entries that were written one
after the other, whatever names occur twice, the last one of a name is seen
(`find?_overlay_reverse`).
-/

namespace StepPipeline.Table

universe u v

variable {α : Type u} {β : Type v}

def NamesOnce (t : Table α) : Prop := (keys t).Nodup

instance (t : Table α) : Decidable (NamesOnce t) := inferInstanceAs (Decidable (keys t).Nodup)

/-- Nothing is found under a name exactly if there is no entry of it, in order or not. -/
theorem find?_eq_none_iff {t : Table α} {key : String} : find? t key = none ↔ key ∉ keys t := by
  induction t with
  | nil => simp [keys]
  | cons e rest ih =>
      obtain ⟨k, v⟩ := e
      rw [find?_cons, keys, List.map_cons, List.mem_cons, not_or, ← keys, ← ih]
      by_cases h : k = key
      · simp [h]
      · simp [h, Ne.symm h]

theorem mem_keys_iff {t : Table α} {key : String} : key ∈ keys t ↔ contains t key = true := by
  rw [contains, Option.isSome_iff_ne_none, ne_eq, find?_eq_none_iff, Decidable.not_not]

/-- What is found is an entry. -/
theorem mem_of_find? {t : Table α} {key : String} {value : α} (h : find? t key = some value) :
    (key, value) ∈ t := by
  induction t with
  | nil => cases h
  | cons e rest ih =>
      obtain ⟨k, v⟩ := e
      rw [find?_cons] at h
      split at h
      · next hk =>
        obtain rfl := Option.some.inj h
        exact hk ▸ List.mem_cons_self
      · exact List.mem_cons_of_mem _ (ih h)

theorem namesOnce_cons {e : String × α} {rest : Table α} :
    NamesOnce (e :: rest) ↔ find? rest e.1 = none ∧ NamesOnce rest := by
  rw [find?_eq_none_iff]
  exact List.nodup_cons

/-- The converse of `mem_of_find?`, for which no name may occur twice. -/
theorem find?_of_mem {t : Table α} (h : NamesOnce t) {e : String × α} (he : e ∈ t) :
    find? t e.1 = some e.2 := by
  induction t with
  | nil => cases he
  | cons f rest ih =>
      obtain ⟨hfirst, hrest⟩ := namesOnce_cons.mp h
      rw [find?]
      rcases List.mem_cons.mp he with rfl | he
      · exact if_pos rfl
      · -- The first name does not occur again.
        have hne : ¬f.1 = e.1 := by
          intro heq
          rw [heq, ih hrest he] at hfirst
          cases hfirst
        rw [if_neg hne, ih hrest he]

/-- Whether a table is sorted depends on its names alone. -/
theorem sorted_iff_keys {t : Table α} : Sorted t ↔ (keys t).Pairwise (· < ·) :=
  List.pairwise_map.symm

/-- A sorted table has no name twice. -/
theorem Sorted.namesOnce {t : Table α} (h : Sorted t) : NamesOnce t := by
  refine List.pairwise_map.mpr (h.imp ?_)
  intro a b hlt heq
  exact String.lt_irrefl b.1 (heq ▸ hlt)

/-- Tables are in order, so with the same names they have them in the same places. -/
theorem keys_eq_of_sorted {t u : Table α} (ht : Sorted t) (hu : Sorted u)
    (h : ∀ key, contains t key = contains u key) : keys t = keys u := by
  -- Two permutations of one list that are both strictly increasing are equal.
  refine List.Perm.eq_of_pairwise ?_ (sorted_iff_keys.mp ht) (sorted_iff_keys.mp hu)
    ((List.perm_ext_iff_of_nodup ht.namesOnce hu.namesOnce).mpr fun key => ?_)
  · intro a b _ _ hab hba
    exact absurd hba (String.lt_asymm hab)
  · rw [mem_keys_iff, mem_keys_iff, h]

/-- Needed for extensionality: the entries of a table are its names with what is found under
them. -/
theorem map_find?_keys {t : Table α} (h : NamesOnce t) :
    (keys t).map (fun key => (key, find? t key)) = t.map fun e => (e.1, some e.2) := by
  rw [keys, List.map_map]
  apply List.map_congr_left
  intro e he
  rw [Function.comp_apply, find?_of_mem h he]

/-- Tables in order are equal if the same is found in them. -/
theorem eq_of_sorted {t u : Table α} (ht : Sorted t) (hu : Sorted u)
    (h : ∀ key, find? t key = find? u key) : t = u := by
  have hkeys : keys t = keys u := by
    apply keys_eq_of_sorted ht hu
    intro key
    rw [contains, contains, h]
  have hentries : t.map (fun e => (e.1, some e.2)) = u.map fun e => (e.1, some e.2) := by
    rw [← map_find?_keys ht.namesOnce, ← map_find?_keys hu.namesOnce, hkeys]
    simp only [h]
  refine (List.map_inj_right ?_).mp hentries
  rintro ⟨k, v⟩ ⟨l, w⟩ heq
  simpa using heq

/-- To write what is there already changes nothing. -/
theorem insert_of_find? {t : Table α} (h : Sorted t) {key : String} {value : α}
    (hfound : find? t key = some value) : insert t key value = t := by
  induction t with
  | nil => cases hfound
  | cons e rest ih =>
      obtain ⟨k, v⟩ := e
      obtain ⟨hfirst, hrest⟩ := List.pairwise_cons.mp h
      rw [find?_cons] at hfound
      by_cases hk : k = key
      · rw [if_pos hk] at hfound
        rw [insert, if_pos hk, ← hk, Option.some.inj hfound]
      · rw [if_neg hk] at hfound
        -- The entry stands further on, so nothing is put in front of this one.
        have hlt : k < key := hfirst _ (mem_of_find? hfound)
        rw [insert, if_neg hk, if_neg (String.lt_asymm hlt), ih hrest hfound]

/-- Keeping the last entry of each name adds no name. -/
theorem mem_keys_of_lastWins {entries : List (String × α)} {key : String}
    (h : key ∈ keys (lastWins entries)) : key ∈ keys entries := by
  induction entries with
  | nil => exact h
  | cons e rest ih =>
      rw [lastWins] at h
      split at h
      · exact List.mem_cons_of_mem _ (ih h)
      · exact List.mem_cons.mpr ((List.mem_cons.mp h).imp id ih)

/-- Of entries of which the last one of each name was kept, no two have one name. -/
theorem namesOnce_lastWins (entries : List (String × α)) : NamesOnce (lastWins entries) := by
  induction entries with
  | nil => exact List.nodup_nil
  | cons e rest ih =>
      rw [lastWins]
      split
      · exact ih
      · next h =>
        have hnone : find? rest e.1 = none := by simpa [contains] using h
        refine namesOnce_cons.mpr ⟨find?_eq_none_iff.mpr fun hmem => ?_, ih⟩
        exact find?_eq_none_iff.mp hnone (mem_keys_of_lastWins hmem)

/-- Where no name occurs twice, the last entry of each name is every entry. -/
theorem lastWins_of_namesOnce {t : Table α} (h : NamesOnce t) : lastWins t = t := by
  induction t with
  | nil => rfl
  | cons e rest ih =>
      obtain ⟨hfirst, hrest⟩ := namesOnce_cons.mp h
      rw [lastWins, contains, hfirst, ih hrest]
      rfl

/-- Nothing is dropped exactly if no name occurs twice. -/
theorem lastWins_eq_self_iff {t : Table α} : lastWins t = t ↔ NamesOnce t := by
  constructor
  · intro h
    rw [← h]
    exact namesOnce_lastWins t
  · exact lastWins_of_namesOnce

/-- Entries whose names all occur again later are dropped. -/
theorem lastWins_append {t u : Table α} (h : ∀ e ∈ t, e.1 ∈ keys u) :
    lastWins (t ++ u) = lastWins u := by
  induction t with
  | nil => rfl
  | cons e rest ih =>
      obtain ⟨hfirst, hrest⟩ := List.forall_mem_cons.mp h
      have hlater : contains (rest ++ u) e.1 = true := by
        cases hfound : find? (rest ++ u) e.1 with
        | some v => rw [contains, hfound]; rfl
        | none =>
            refine absurd ?_ (find?_eq_none_iff.mp hfound)
            rw [keys, List.map_append]
            exact List.mem_append_right _ hfirst
      rw [List.cons_append, lastWins, if_pos hlater, ih hrest]

/-- An overlaid table reads like the upper table, and below it like the lower one. -/
theorem find?_overlay (t : Table α) {u : Table α} (h : NamesOnce u) (key : String) :
    find? (overlay t u) key = (find? u key).or (find? t key) := by
  induction u generalizing t with
  | nil => rfl
  | cons e rest ih =>
      obtain ⟨k, v⟩ := e
      obtain ⟨hk, hrest⟩ := namesOnce_cons.mp h
      -- Entries are written from left to right, and none of the rest has the name of the first.
      rw [show overlay t ((k, v) :: rest) = overlay (insert t k v) rest from rfl,
        ih _ hrest, find?_insert, find?_cons]
      by_cases hkey : k = key
      · subst hkey
        rw [hk, if_pos rfl, if_pos rfl]
        rfl
      · rw [if_neg hkey, if_neg (Ne.symm hkey)]

/-- A table in order is read back from its entries. -/
theorem ofList_of_sorted {t : Table α} (h : Sorted t) : ofList t = t := by
  apply eq_of_sorted (sorted_ofList t) h
  intro key
  rw [ofList, find?_overlay [] h.namesOnce, find?_nil, Option.or_none]

/-- Of two lists of entries the first one is looked through first, unlike overlaid tables. -/
theorem find?_append (t u : Table α) (key : String) :
    find? (t ++ u) key = (find? t key).or (find? u key) := by
  induction t with
  | nil => rfl
  | cons e rest ih =>
      rw [List.cons_append, find?, find?, ih]
      split <;> rfl

/-- Whatever names occur twice above, the last entry of a name is seen. -/
theorem find?_overlay_reverse (t u : Table α) (key : String) :
    find? (overlay t u) key = (find? u.reverse key).or (find? t key) := by
  -- Induction on the entries that are written, each of which is seen only if no later one has its
  -- name.
  induction u generalizing t with
  | nil => rfl
  | cons e rest ih =>
      rw [show overlay t (e :: rest) = overlay (insert t e.1 e.2) rest from rfl, ih, find?_insert,
        List.reverse_cons, find?_append, Option.or_assoc]
      by_cases h : key = e.1
      · simp [find?, h]
      · simp [find?, h, Ne.symm h]

/-- To write entries one by one is to write the table of them. -/
theorem overlay_ofList {t : Table α} (h : Sorted t) (entries : List (String × α)) :
    overlay t (ofList entries) = overlay t entries := by
  apply eq_of_sorted (sorted_overlay h _) (sorted_overlay h _)
  intro key
  rw [find?_overlay t (sorted_ofList entries).namesOnce, ofList, find?_overlay_reverse,
    find?_overlay_reverse, find?_nil, Option.or_none]

/-- Names decide where an entry goes, so changing values first makes no difference. -/
theorem mapValues_insert (f : α → β) (t : Table α) (key : String) (value : α) :
    mapValues f (insert t key value) = insert (mapValues f t) key (f value) := by
  induction t with
  | nil => rfl
  | cons e rest ih =>
      obtain ⟨k, v⟩ := e
      rw [show mapValues f ((k, v) :: rest) = (k, f v) :: mapValues f rest from rfl, insert, insert,
        ← ih]
      split
      · rfl
      · split <;> rfl

/-- Expanding an overlaid context is overlaying the expanded ones. -/
theorem mapValues_overlay (f : α → β) (t u : Table α) :
    mapValues f (overlay t u) = overlay (mapValues f t) (mapValues f u) := by
  induction u generalizing t with
  | nil => rfl
  | cons e rest ih =>
      show mapValues f (overlay (insert t e.1 e.2) rest) = _
      rw [ih, mapValues_insert]
      rfl

/-- Below names that the upper table lacks, the lower one is seen, whatever names occur twice. -/
theorem find?_overlay_of_not_mem {t u : Table α} {key : String} (h : key ∉ keys u) :
    find? (overlay t u) key = find? t key := by
  induction u generalizing t with
  | nil => rfl
  | cons e rest ih =>
      rw [keys, List.map_cons, List.mem_cons, not_or] at h
      rw [show overlay t (e :: rest) = overlay (insert t e.1 e.2) rest from rfl, ih h.2,
        find?_insert_of_ne _ _ h.1]

/-- Overlaying makes up no entry. -/
theorem mem_of_mem_overlay {t u : Table α} {e : String × α} (h : e ∈ overlay t u) :
    e ∈ t ∨ e ∈ u := by
  induction u generalizing t with
  | nil => exact .inl h
  | cons f rest ih =>
      rcases ih h with hinsert | hrest
      · rcases mem_keys_insert hinsert with rfl | ht
        · exact .inr List.mem_cons_self
        · exact .inl ht
      · exact .inr (List.mem_cons_of_mem _ hrest)

/-- The names of the upper table are names of the overlaid one, whatever names occur twice. -/
theorem mem_keys_overlay {t u : Table α} {key : String} (h : key ∈ keys u) :
    key ∈ keys (overlay t u) := by
  induction u generalizing t with
  | nil => cases h
  | cons e rest ih =>
      show key ∈ keys (overlay (insert t e.1 e.2) rest)
      by_cases hrest : key ∈ keys rest
      · exact ih hrest
      · -- It is the name that was just written, and no later entry touches it.
        obtain rfl : key = e.1 := (List.mem_cons.mp h).resolve_right hrest
        refine Classical.byContradiction fun hnone => ?_
        have hfound := find?_overlay_of_not_mem (t := insert t e.1 e.2) hrest
        rw [find?_eq_none_iff.mpr hnone, find?_insert_self] at hfound
        cases hfound

theorem find?_filterKeys (p : String → Bool) (t : Table α) (key : String) :
    find? (filterKeys p t) key = if p key then find? t key else none := by
  induction t with
  | nil => simp [filterKeys]
  | cons e rest ih =>
      obtain ⟨k, v⟩ := e
      simp only [filterKeys, List.filter_cons, find?_cons] at ih ⊢
      by_cases hkey : k = key
      · subst hkey
        cases hp : p k <;> simp [hp, ih, find?_cons]
      · cases p k <;> simp [ih, hkey, find?_cons]

/-- Changing or dropping every value by itself changes or drops the value that is found. -/
theorem find?_filterMap (f : α → Option β) {t : Table α} (h : NamesOnce t) (key : String) :
    find? (t.filterMap fun e => (f e.2).map fun v => (e.1, v)) key = (find? t key).bind f := by
  induction t with
  | nil => rfl
  | cons e rest ih =>
      obtain ⟨k, v⟩ := e
      obtain ⟨hk, hrest⟩ := namesOnce_cons.mp h
      rw [find?_cons, List.filterMap_cons]
      by_cases hkey : k = key
      · -- The value may be dropped, and then there is no other of that name.
        subst hkey
        rw [if_pos rfl]
        cases hf : f v with
        | none => simpa [hf, hk] using ih hrest
        | some w => simp [hf, find?_cons]
      · rw [if_neg hkey, ← ih hrest]
        cases hf : f v with
        | none => rfl
        | some w => simp only [Option.map_some, find?_cons, if_neg hkey]

/-- Dropping and changing values one by one makes no name occur twice. -/
theorem NamesOnce.filterMap (f : α → Option β) {t : Table α} (h : NamesOnce t) :
    NamesOnce (t.filterMap fun e => (f e.2).map fun v => (e.1, v)) := by
  induction t with
  | nil => exact List.nodup_nil
  | cons e rest ih =>
      obtain ⟨hk, hrest⟩ := namesOnce_cons.mp h
      rw [List.filterMap_cons]
      cases f e.2 with
      | none => exact ih hrest
      | some w =>
          refine namesOnce_cons.mpr ⟨?_, ih hrest⟩
          rw [find?_filterMap f hrest, hk]
          rfl

end StepPipeline.Table
