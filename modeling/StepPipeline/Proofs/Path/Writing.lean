import StepPipeline.Path.Access

/-!
# Writing and reading at one path

One segment of a write goes into a record or into an array. A value that cannot hold the part is
replaced first, and `Json.opened` is what it is replaced with. Behind it only two cases are left
(`opened_cases`): a record, and an array with a position within reach. Reading decides anew what the
segment denotes, and comes to the same part.

* `child?_updateChild`: the part that was written is the part that is read;
* `updateChild_updateChild`: a second write to a part finds what the first one left.

Main statement: `get_of_set`.
-/

namespace StepPipeline

/-- Of two values that are put under one name the second stays. -/
theorem Table.insert_insert_self {α : Type} (t : Table α) (key : String) (first second : α) :
    insert (insert t key first) key second = insert t key second := by
  induction t with
  | nil => simp [insert]
  | cons e rest ih =>
      obtain ⟨k, v⟩ := e
      by_cases hk : k = key
      · simp [insert, hk]
      · by_cases hlt : key < k
        · simp [insert, hk, hlt]
        · simp [insert, hk, hlt, ih]

/-! ## Segments within reach -/

/-- A segment that writing does not refuse: any key, and an index that is not too great. -/
def Segment.InReach (s : Segment) : Prop := ∀ i, s = .index i → i ≤ maxPosition

namespace Path

variable {p : Path}

/-- No index is too far exactly if every segment is within reach. -/
theorem tooFar?_eq_none_iff : p.tooFar? = none ↔ ∀ s ∈ p, s.InReach := by
  rw [tooFar?, List.findSome?_eq_none_iff]
  refine forall_congr' fun s => forall_congr' fun _ => ?_
  cases s with
  | key name => simp [Segment.InReach]
  | index i => simp [Segment.InReach]

theorem tooFar?_eq_some {i : Nat} (h : p.tooFar? = some i) : .index i ∈ p ∧ maxPosition < i := by
  obtain ⟨s, hs, hfar⟩ := List.exists_of_findSome?_eq_some h
  cases s with
  | key name => cases hfar
  | index j =>
      dsimp only at hfar
      split at hfar
      · next hlt =>
        obtain rfl := Option.some.inj hfar
        exact ⟨hs, hlt⟩
      · cases hfar

end Path

namespace Segment

variable {s : Segment}

theorem toPosition?_eq_some_iff {i : Nat} :
    s.toPosition? = some i ↔ s.toIndex? = some i ∧ i ≤ maxPosition := by
  rw [toPosition?, Option.filter_eq_some_iff, decide_eq_true_eq]

theorem toPosition?_eq_none_iff :
    s.toPosition? = none ↔ ∀ i, s.toIndex? = some i → maxPosition < i := by
  rw [toPosition?, Option.filter_eq_none_iff]
  simp only [decide_eq_true_eq, Nat.not_le]

theorem toPosition?_index {i : Nat} (h : (index i).InReach) :
    (index i).toPosition? = some i :=
  toPosition?_eq_some_iff.mpr ⟨rfl, h i rfl⟩

end Segment

/-! ## One segment -/

/-- The empty container that a segment of a write makes. -/
def Segment.container : Segment → Json
  | index _ => .arr []
  | key _ => .obj []

namespace Json

variable {v : Json} {s : Segment}

/-- Whether a value can hold the part that a segment of a write denotes. -/
def fits : Json → Segment → Bool
  | .obj _, _ => true
  | .arr _, s => s.toPosition?.isSome
  | _, _ => false

/-- What a segment of a write goes into: the value itself, or an empty container in its place. -/
def opened (v : Json) (s : Segment) : Json := if v.fits s then v else s.container

theorem opened_of_fits (h : v.fits s = true) : v.opened s = v := if_pos h

theorem opened_of_not_fits (h : v.fits s = false) : v.opened s = s.container :=
  if_neg (Bool.eq_false_iff.mp h)

/-- A write goes into a record, or into an array with a position that it reaches. -/
theorem opened_cases (hs : s.InReach) (v : Json) : (∃ fields, v.opened s = .obj fields) ∨
    ∃ items i, v.opened s = .arr items ∧ s.toPosition? = some i := by
  cases h : v.fits s with
  | false =>
      rw [opened_of_not_fits h]
      cases s with
      | key name => exact .inl ⟨[], rfl⟩
      | index i => exact .inr ⟨[], i, rfl, Segment.toPosition?_index hs⟩
  | true =>
      rw [opened_of_fits h]
      cases v with
      | obj fields => exact .inl ⟨fields, rfl⟩
      | arr items =>
          obtain ⟨i, hi⟩ := Option.isSome_iff_exists.mp h
          exact .inr ⟨items, i, rfl, hi⟩
      | _ => cases h

theorem updateChild_obj (fields : Record) (f : Json → Json) :
    (obj fields).updateChild s f = updateField fields s.toKey f := rfl

theorem updateChild_arr {i : Nat} (h : s.toPosition? = some i) (items : List Json)
    (f : Json → Json) : (arr items).updateChild s f = updateItem items i f := by
  simp only [updateChild, h]

/-- Opening changes nothing about a write: what it drops, the write drops as well. -/
theorem updateChild_opened (hs : s.InReach) (v : Json) (f : Json → Json) :
    (v.opened s).updateChild s f = v.updateChild s f := by
  cases h : v.fits s with
  | true => rw [opened_of_fits h]
  | false =>
      rw [opened_of_not_fits h]
      -- Only what does not fit is left, and it is dropped whatever it is.
      cases s with
      | key name =>
          cases v with
          | obj fields => cases h
          | arr items =>
              have hnone : (Segment.key name).toPosition? = none :=
                Option.not_isSome_iff_eq_none.mp (Bool.eq_false_iff.mp h)
              simp only [updateChild, hnone]
              rfl
          | _ => rfl
      | index i =>
          rw [Segment.container, updateChild_arr (Segment.toPosition?_index hs)]
          cases v with
          | obj fields => cases h
          | arr items =>
              rw [fits, Segment.toPosition?_index hs] at h
              cases h
          | _ => rfl

/-! ### Items of an array -/

section Items

variable {items : List Json} {i j : Nat}

theorem length_extendTo : (extendTo items i).length = max items.length (i + 1) := by
  simp only [extendTo, List.length_append, List.length_replicate]
  omega

theorem extendTo_of_lt (h : i < items.length) : extendTo items i = items := by
  rw [extendTo, Nat.sub_eq_zero_of_le h, List.replicate_zero, List.append_nil]

theorem getElem?_extendTo_of_lt (h : j < items.length) : (extendTo items i)[j]? = items[j]? :=
  List.getElem?_append_left h

/-- What is filled up is `null`. -/
theorem getElem?_extendTo_of_le (hle : items.length ≤ j) (hlt : j < i + 1) :
    (extendTo items i)[j]? = some .null := by
  rw [extendTo, List.getElem?_append_right hle, List.getElem?_replicate, if_pos (by omega)]

/-- At the position that is written there is the item that was there, or `null`. -/
theorem getElem?_extendTo_self : (extendTo items i)[i]? = some (items[i]?.getD .null) := by
  by_cases h : i < items.length
  · rw [getElem?_extendTo_of_lt h, List.getElem?_eq_getElem h]
    rfl
  · rw [getElem?_extendTo_of_le (by omega) (by omega), List.getElem?_eq_none (by omega)]
    rfl

end Items

/-! ### The part that is written -/

/-- What a segment of a write finds before it writes. -/
def before (v : Json) (s : Segment) : Json := ((v.opened s).child? s).getD .null

theorem child?_obj (fields : Record) : (obj fields).child? s = Table.find? fields s.toKey := rfl

theorem child?_arr {i : Nat} (h : s.toPosition? = some i) (items : List Json) :
    (arr items).child? s = items[i]? := by
  rw [child?, (Segment.toPosition?_eq_some_iff.mp h).1]
  rfl

/-- What was written is what is read. -/
theorem child?_updateChild (hs : s.InReach) (v : Json) (f : Json → Json) :
    (v.updateChild s f).child? s = some (f (v.before s)) := by
  rw [← updateChild_opened hs, before]
  rcases opened_cases hs v with ⟨fields, h⟩ | ⟨items, i, h, hi⟩
  · rw [h, updateChild_obj]
    exact Table.find?_insert_self _ _ _
  · rw [h, updateChild_arr hi, updateItem, child?_arr hi, child?_arr hi, List.getElem?_modify_eq,
      getElem?_extendTo_self]
    rfl

/-- A second write to a part finds what the first one left there. -/
theorem updateChild_updateChild (hs : s.InReach) (v : Json) (f g : Json → Json) :
    (v.updateChild s f).updateChild s g = v.updateChild s fun child => g (f child) := by
  rw [← updateChild_opened hs v, ← updateChild_opened hs v]
  rcases opened_cases hs v with ⟨fields, h⟩ | ⟨items, i, h, hi⟩
  · rw [h, updateChild_obj, updateChild_obj, updateField, updateChild_obj, updateField, updateField,
      Table.find?_insert_self, Table.insert_insert_self]
    rfl
  · have hlt : i < ((extendTo items i).modify i f).length := by
      rw [List.length_modify, length_extendTo]
      omega
    rw [h, updateChild_arr hi, updateChild_arr hi, updateItem, updateChild_arr hi, updateItem,
      updateItem, extendTo_of_lt hlt, List.modify_modify_eq]
    rfl

/-! ## Whole paths -/

/-- What is written along segments within reach is read there. -/
theorem getAt?_setAt {p : Path} (hp : ∀ s ∈ p, s.InReach) (root value : Json) :
    (root.setAt p value).getAt? p = some value := by
  induction p generalizing root with
  | nil => rfl
  | cons s rest ih =>
      obtain ⟨hs, hrest⟩ := List.forall_mem_cons.mp hp
      rw [setAt, getAt?, child?_updateChild hs]
      exact ih hrest _

/-- Of two writes along one path only the second is seen. -/
theorem setAt_setAt {p : Path} (hp : ∀ s ∈ p, s.InReach) (root first second : Json) :
    (root.setAt p first).setAt p second = root.setAt p second := by
  -- The part that is written varies, since the first write may have made it.
  induction p generalizing root with
  | nil => rfl
  | cons s rest ih =>
      obtain ⟨hs, hrest⟩ := List.forall_mem_cons.mp hp
      rw [setAt, setAt, updateChild_updateChild hs]
      exact congrArg (root.updateChild s) (funext fun child => ih hrest child)

/-! ## Paths in a text -/

/-- A value after a write was tried. If the write was refused it is still the same. -/
def afterSet (root : Json) (text : String) (value : Json) : Json :=
  match root.set text value with
  | .ok new => new
  | .error _ => root

theorem set_eq_ok_iff {root value new : Json} {text : String} : root.set text value = .ok new ↔
    (∀ s ∈ Path.parse text, s.InReach) ∧ root.setAt (Path.parse text) value = new := by
  rw [← Path.tooFar?_eq_none_iff, set]
  cases (Path.parse text).tooFar? <;> simp

theorem set_eq_error_iff {root value : Json} {text : String} {f : Fault} :
    root.set text value = .error f ↔ ∃ i, (Path.parse text).tooFar? = some i ∧
      f = .invalidPath text s!"index {i} exceeds {maxPosition}" := by
  rw [set]
  cases (Path.parse text).tooFar? <;> simp [eq_comm]

end Json

/-- **What was written is read, and the last write counts.** Writing at a path is refused exactly if
the path has an index in brackets above the greatest position; the fault names the path and such an
index, and the value stays as it was. Any other write succeeds, and then reading at the path gives
what was written, and a second write gives what it would have given without the first. -/
theorem get_of_set (root : Json) (text : String) (value : Json) :
    ((∃ f, root.set text value = .error f) ↔
      ∃ i, .index i ∈ Path.parse text ∧ maxPosition < i) ∧
    (∀ f, root.set text value = .error f → root.afterSet text value = root ∧
      ∃ i, .index i ∈ Path.parse text ∧ maxPosition < i ∧
        f = .invalidPath text s!"index {i} exceeds {maxPosition}") ∧
    ((∀ i, .index i ∈ Path.parse text → i ≤ maxPosition) →
      root.set text value = .ok (root.afterSet text value) ∧
      (root.afterSet text value).get? text = some value ∧
      ∀ second, (root.afterSet text value).set text second = root.set text second) := by
  have hrefused : ∀ f, root.set text value = .error f → ∃ i, .index i ∈ Path.parse text ∧
      maxPosition < i ∧ f = .invalidPath text s!"index {i} exceeds {maxPosition}" := by
    intro f hf
    obtain ⟨i, hi, rfl⟩ := Json.set_eq_error_iff.mp hf
    obtain ⟨hmem, hlt⟩ := Path.tooFar?_eq_some hi
    exact ⟨i, hmem, hlt, rfl⟩
  -- Whether a write is refused depends on the path alone, so the second one is not.
  have haccepted : (∀ i, .index i ∈ Path.parse text → i ≤ maxPosition) →
      ∀ value, root.set text value = .ok (root.setAt (Path.parse text) value) := by
    intro hall value
    exact Json.set_eq_ok_iff.mpr ⟨fun s hs i hi => hall i (hi ▸ hs), rfl⟩
  refine ⟨⟨?_, ?_⟩, ?_, ?_⟩
  · rintro ⟨f, hf⟩
    obtain ⟨i, hmem, hlt, -⟩ := hrefused f hf
    exact ⟨i, hmem, hlt⟩
  · rintro ⟨i, hmem, hlt⟩
    cases hset : root.set text value with
    | error f => exact ⟨f, rfl⟩
    | ok new =>
        have hle := (Json.set_eq_ok_iff.mp hset).1 _ hmem i rfl
        omega
  · intro f hf
    refine ⟨?_, hrefused f hf⟩
    rw [Json.afterSet, hf]
  · intro hall
    have hreach : ∀ s ∈ Path.parse text, s.InReach := fun s hs i hi => hall i (hi ▸ hs)
    have hafter : root.afterSet text value = root.setAt (Path.parse text) value := by
      rw [Json.afterSet, haccepted hall]
    rw [hafter]
    refine ⟨haccepted hall value, Json.getAt?_setAt hreach root value, fun second => ?_⟩
    rw [haccepted hall second, Json.set_eq_ok_iff]
    exact ⟨hreach, Json.setAt_setAt hreach root value second⟩

/-- A record with an array of one item. -/
def oneItem : Json := .obj [("a", .arr [.nat 1])]

/-- The array is filled up to the position that is written; one that is out of reach is refused. -/
theorem oneItem_get_of_set :
    (∀ i, .index i ∈ Path.parse "a[2].c" → i ≤ maxPosition) ∧
    oneItem.set "a[2].c" (.bool true) =
      .ok (.obj [("a", .arr [.nat 1, .null, .obj [("c", .bool true)]])]) ∧
    (oneItem.afterSet "a[2].c" (.bool true)).get? "a[2].c" = some (.bool true) ∧
    ∃ f, oneItem.set "a[65536]" .null = .error f := by
  have hreach : ∀ i, .index i ∈ Path.parse "a[2].c" → i ≤ maxPosition := by
    rw [show Path.parse "a[2].c" = [.key "a", .index 2, .key "c"] by decide]
    intro i hi
    obtain rfl : i = 2 := by simpa using hi
    decide
  obtain ⟨-, -, haccepted⟩ := get_of_set oneItem "a[2].c" (.bool true)
  obtain ⟨hset, hget, -⟩ := haccepted hreach
  obtain ⟨hrefused, -, -⟩ := get_of_set oneItem "a[65536]" .null
  refine ⟨hreach, hset.trans rfl, hget, hrefused.mpr ⟨65536, ?_, by decide⟩⟩
  rw [show Path.parse "a[65536]" = [.key "a", .index 65536] by decide]
  simp

end StepPipeline
