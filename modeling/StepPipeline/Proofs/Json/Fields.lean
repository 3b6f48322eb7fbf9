import Mathlib.Data.List.Nodup
import StepPipeline.Json.Description
import StepPipeline.Proofs.Computations
import StepPipeline.Proofs.Store.Names

/-!
# Fields of descriptions

What each kind of field is read from. A description is written as an object of the fields that have
a value; `Json.fields?_object` says that these are the fields that are found in it, so what was
written is read back field by field.
-/

namespace StepPipeline

/-! ## Fields -/

namespace Json

theorem occurrences_le_one {fields : List (String × Json)} (h : Table.NamesOnce fields)
    (name : String) : occurrences fields name ≤ 1 := by
  have hcount : occurrences fields name = (Table.keys fields).count name := by
    rw [List.count, Table.keys, List.countP_map]
    rfl
  rw [hcount]
  exact List.nodup_iff_count_le_one.mp h name

/-- An object that names each field once gives all of its fields. -/
theorem fields?_obj {fields : List (String × Json)} (h : Table.NamesOnce fields)
    (names : List String) : (Json.obj fields).fields? names = some fields := by
  rw [fields?, if_pos]
  refine List.all_eq_true.mpr fun name _ => ?_
  exact decide_eq_true (occurrences_le_one h name)

/-- An object that was written gives exactly the fields that have a value. -/
theorem fields?_object (names : List String) (entries : List (String × Option Json))
    (h : (entries.map (·.1)).Nodup) : ∃ fields, (object entries).fields? names = some fields ∧
      ∀ name, Table.find? fields name = (Table.find? entries name).join := by
  have honce : Table.NamesOnce entries := h
  refine ⟨_, fields?_obj (honce.filterMap id) names, fun name => ?_⟩
  rw [← Option.bind_id_eq_join]
  exact Table.find?_filterMap id honce name

variable {fields : List (String × Json)} {name : String}

theorem exists_fields?_iff {v : Json} {names : List String} (h : v.fields? names = some fields)
    {P : List (String × Json) → Prop} :
    (∃ fields', v.fields? names = some fields' ∧ P fields') ↔ P fields := by
  rw [h]
  simp

theorem textField?_eq_some_iff {s : String} :
    textField? fields name = some s ↔ Table.find? fields name = some (.str s) := by
  unfold textField?
  cases Table.find? fields name with
  | none => simp
  | some v => cases v <;> simp [asStr?]

/-- A text that is there or missing is read as that. -/
theorem optionalText?_of_find? {s : Option String}
    (h : Table.find? fields name = s.map .str) : optionalText? fields name = some s := by
  rw [optionalText?, h]
  cases s <;> rfl

theorem isSome_optionalText?_iff : (optionalText? fields name).isSome ↔
    Table.find? fields name = none ∨ Table.find? fields name = some .null ∨
      ∃ s, Table.find? fields name = some (.str s) := by
  unfold optionalText?
  cases Table.find? fields name with
  | none => simp
  | some v => cases v <;> simp

theorem find?_of_optionalValue {v : Json} (h : optionalValue fields name = some v) :
    Table.find? fields name = some v := by
  unfold optionalValue at h
  split at h
  · cases h
  · exact h

theorem optionalValue_ne_null : optionalValue fields name ≠ some .null := by
  unfold optionalValue
  split
  · exact fun h => by cases h
  · next h => exact h

theorem optionalValue_eq_iff {v : Option Json} (h : Table.find? fields name = v) :
    optionalValue fields name = v ↔ v ≠ some .null := by
  rw [← h, optionalValue]
  split
  · next hnull => simp [hnull]
  · next hvalue => exact ⟨fun _ => hvalue, fun _ => rfl⟩

theorem recordField?_of_find? {record : Record} (h : Table.find? fields name = some (.obj record)) :
    recordField? fields name = some record := by
  rw [recordField?, h]
  rfl

theorem listField?_of_find? {items : List Json} (h : Table.find? fields name = some (.arr items)) :
    listField? fields name = some items := by
  rw [listField?, h]
  rfl

/-- An empty list is read from a field that is missing. -/
theorem listField?_of_ofListUnlessEmpty {items : List Json}
    (h : Table.find? fields name = ofListUnlessEmpty items) :
    listField? fields name = some items := by
  rw [listField?, h]
  cases items <;> rfl

/-- The items of a list in a canonical value are canonical. -/
theorem canonical_of_asItems? {v : Json} (hv : v.Canonical) {items : List Json}
    (h : v.asItems? = some items) : ∀ item ∈ items, item.Canonical := by
  cases v with
  | arr _ =>
      obtain rfl := Option.some.inj h
      exact canonicalItems_iff.mp hv
  | _ => cases h

/-- A list with an item was found. -/
theorem find?_of_mem_listField? {items : List Json} (h : listField? fields name = some items)
    {item : Json} (hitem : item ∈ items) : Table.find? fields name = some (.arr items) := by
  unfold listField? at h
  split at h
  · obtain rfl := Option.some.inj h
    -- A missing field gives a list without items.
    cases hitem
  · next found hfound =>
    cases found with
    | arr _ =>
        obtain rfl := Option.some.inj h
        exact hfound
    | _ => cases h

theorem canonical_of_listField? (hfields : ∀ {name v}, Table.find? fields name = some v →
    v.Canonical) {items : List Json} (h : listField? fields name = some items) :
    ∀ item ∈ items, item.Canonical := by
  intro item hitem
  have hitems : (Json.arr items).Canonical := hfields (find?_of_mem_listField? h hitem)
  exact canonicalItems_iff.mp hitems item hitem

end Json

end StepPipeline
