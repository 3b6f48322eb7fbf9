import StepPipeline.Proofs.Store.Names
import StepPipeline.Store.Context

/-!
# Flat records of contexts

A context is flattened into one record, in which counters and test stand under names of their own.
Under any other name the record has what the context has (`find?_toRecord`), and dropping the names
of counters and test leaves just these.
-/

namespace StepPipeline.Context

variable {key : String}

/-- The names of the test and of the counters, and no others. -/
theorem isBookkeeping_iff :
    isBookkeeping key = true ↔ key = testKey ∨ ∃ target, key = jumpKey target := by
  have hjump : (Text.dropLeading? jumpMark.toList key.toList).isSome = true ↔
      ∃ target, key = jumpKey target := by
    simp only [Option.isSome_iff_exists, Text.dropLeading?_eq_some_iff]
    constructor
    · rintro ⟨rest, h⟩
      refine ⟨String.ofList rest, String.toList_inj.mp ?_⟩
      rw [h, jumpKey, String.toList_append, String.toList_ofList]
    · rintro ⟨target, rfl⟩
      exact ⟨target.toList, by rw [jumpKey, String.toList_append]⟩
  rw [isBookkeeping, Bool.or_eq_true, beq_iff_eq, hjump]

/-- A name of neither a counter nor the test. -/
def IsPlainName (key : String) : Prop := key ≠ testKey ∧ ∀ target, key ≠ jumpKey target

/-- The form in which laws about plain names use the check. -/
theorem isBookkeeping_eq_false_iff : isBookkeeping key = false ↔ IsPlainName key := by
  rw [← Bool.not_eq_true, isBookkeeping_iff, not_or, not_exists, IsPlainName]

/-- No target is so named that its counter passes for a plain value. -/
theorem isBookkeeping_jumpKey (target : String) : isBookkeeping (jumpKey target) = true :=
  isBookkeeping_iff.mpr (.inr ⟨target, rfl⟩)

theorem isBookkeeping_of_mem_countEntries {c : Context} (h : key ∈ Table.keys c.countEntries) :
    isBookkeeping key = true := by
  simp only [Table.keys, countEntries, List.map_map, List.mem_map, Function.comp] at h
  obtain ⟨e, -, rfl⟩ := h
  exact isBookkeeping_jumpKey e.1

theorem isBookkeeping_of_mem_testEntries {c : Context} (h : key ∈ Table.keys c.testEntries) :
    isBookkeeping key = true := by
  simp only [Table.keys, testEntries, List.map_map, List.mem_map, Function.comp] at h
  obtain ⟨_, -, rfl⟩ := h
  exact isBookkeeping_iff.mpr (.inl rfl)

/-- Counters and test hide no other name. -/
theorem find?_toRecord (c : Context) (h : isBookkeeping key = false) :
    Table.find? c.toRecord key = c.get? key := by
  have hcounts : key ∉ Table.keys c.countEntries := fun hmem =>
    Bool.eq_false_iff.mp h (isBookkeeping_of_mem_countEntries hmem)
  have htest : key ∉ Table.keys c.testEntries := fun hmem =>
    Bool.eq_false_iff.mp h (isBookkeeping_of_mem_testEntries hmem)
  rw [toRecord, Table.find?_overlay_of_not_mem htest, Table.find?_overlay_of_not_mem hcounts]
  rfl

/-- Dropping goes by the name alone, so a value that happens to have such a name is dropped too. -/
theorem find?_withoutBookkeeping (record : Record) (key : String) :
    Table.find? (withoutBookkeeping record) key =
      if isBookkeeping key then none else Table.find? record key := by
  rw [withoutBookkeeping, Table.find?_filterKeys]
  cases isBookkeeping key <;> rfl

end StepPipeline.Context
