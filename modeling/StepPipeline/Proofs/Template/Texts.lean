import StepPipeline.Template.Environment
import StepPipeline.Template.Resolution
import StepPipeline.Text.Search

/-!
# The texts inside a value

Resolving within a value looks at the texts in it and at nothing else. So a value is left as it is
exactly if each of its texts is (`resolveWithin_eq_self_iff`), and a text is whenever it holds no
placeholder and the data bus does not know it as a name. Expanding from the environment looks at the
same texts (`expand_eq_self_iff`).
-/

namespace StepPipeline

/-- The texts inside a value; names of fields are not among them. -/
def Json.texts : Json → List String
  | .str s => [s]
  | .arr items => items.flatMap fun v => texts v
  | .obj fields => fields.flatMap fun e => texts e.2
  | _ => []
termination_by v => sizeOf v
decreasing_by
  all_goals simp_wf
  · have := List.sizeOf_lt_of_mem ‹_›; omega
  · have := Json.sizeOf_lt_of_mem ‹_›; omega

/-- Nothing is changed if a list stays as it is. -/
theorem map_eq_self_iff {α : Type} {f : α → α} {xs : List α} :
    xs.map f = xs ↔ ∀ x ∈ xs, f x = x := by
  rw [← List.map_inj_left, List.map_id']

/-! ## Placeholders -/

namespace Template

theorem isSlot_iff {p : Piece} : p.isSlot = true ↔ ∃ path, p = .slot path := by
  cases p <;> simp [Piece.isSlot]

/-- A text with a placeholder contains the mark that opens one. -/
theorem contains_of_hasSlot {text : String} (h : hasSlot text = true) :
    Text.contains text "$\x7b" = true := by
  obtain ⟨p, hp, hslot⟩ := List.any_eq_true.mp h
  obtain ⟨path, rfl⟩ := isSlot_iff.mp hslot
  obtain ⟨front, back, hpieces⟩ := List.append_of_mem hp
  -- The text reads as its pieces do, one after the other.
  have htext := flatMap_text_pieces text.toList
  rw [hpieces, List.flatMap_append, List.flatMap_cons] at htext
  refine Text.occursIn_iff.mpr ⟨front.flatMap Piece.text,
    path ++ [closing] ++ back.flatMap Piece.text, ?_⟩
  rw [← htext]
  simp [Piece.text, written, opening]

theorem hasSlot_of_whole? {text path : String} (h : whole? text = some path) :
    hasSlot text = true := by
  unfold whole? at h
  split at h
  · next heq => simp [hasSlot, heq, Piece.isSlot]
  · cases h

end Template

namespace Scope

variable {s : Scope}

/-- A text without placeholders names a slot or stands for itself. -/
theorem resolveText_of_not_hasSlot {text : String} (h : Template.hasSlot text = false) :
    s.resolveText text = some ((s.bus.get? text).getD (.str text)) := by
  unfold resolveText
  split
  · next hwhole =>
    rw [Template.hasSlot_of_whole? hwhole] at h
    cases h
  · rw [h]
    rfl

/-! ## Values that are left as they are -/

/-- Nothing is dropped and nothing is changed if a list stays as it is. -/
theorem filterMap_eq_self_iff {α : Type} {f : α → Option α} {xs : List α} :
    xs.filterMap f = xs ↔ ∀ x ∈ xs, f x = some x := by
  induction xs with
  | nil => simp
  | cons x xs ih =>
      rw [List.forall_mem_cons, List.filterMap_cons, ← ih]
      cases hf : f x with
      | none =>
          refine ⟨fun h => ?_, fun h => by cases h.1⟩
          -- One element was dropped, and nothing fills its place.
          have hlength := congrArg List.length h
          have hle := List.length_filterMap_le f xs
          simp only [List.length_cons] at hlength
          omega
      | some y => simp [List.cons.injEq]

/-- Only a text can resolve to nothing, so an item is left as it is if it resolves to itself. -/
theorem getD_resolveWithin_eq_iff {v : Json} :
    (s.resolveWithin v).getD .null = v ↔ s.resolveWithin v = some v := by
  cases h : s.resolveWithin v with
  | some w => simp
  | none =>
      unfold resolveWithin at h
      split at h
      · simp
      all_goals cases h

/-- **A value resolves to itself** exactly if each text inside it does. -/
theorem resolveWithin_eq_self_iff {v : Json} : s.resolveWithin v = some v ↔
    ∀ text ∈ v.texts, s.resolveText text = some (.str text) := by
  fun_induction Scope.resolveWithin s v with
  | case1 text => simp [Json.texts]
  | case2 items ih =>
      have hitems : (items.map fun v => (s.resolveWithin v).getD .null) = items ↔
          ∀ v ∈ items, (s.resolveWithin v).getD .null = v := map_eq_self_iff
      rw [Option.some_inj, Json.arr.injEq, hitems, Json.texts]
      simp only [List.mem_flatMap]
      constructor
      · rintro h text ⟨v, hv, htext⟩
        exact (ih v hv).mp (getD_resolveWithin_eq_iff.mp (h v hv)) text htext
      · intro h v hv
        exact getD_resolveWithin_eq_iff.mpr ((ih v hv).mpr fun text htext => h text ⟨v, hv, htext⟩)
  | case3 fields ih =>
      rw [Option.some_inj, Json.obj.injEq, filterMap_eq_self_iff, Json.texts]
      simp only [List.mem_flatMap]
      have hentry : ∀ e : String × Json, ((s.resolveWithin e.2).map fun v => (e.1, v)) = some e ↔
          s.resolveWithin e.2 = some e.2 := by
        rintro ⟨k, v⟩
        cases s.resolveWithin v <;> simp
      constructor
      · rintro h text ⟨e, he, htext⟩
        exact (ih e he).mp ((hentry e).mp (h e he)) text htext
      · intro h e he
        exact (hentry e).mpr ((ih e he).mpr fun text htext => h text ⟨e, he, htext⟩)
  | case4 v hstr harr hobj =>
      refine iff_of_true rfl fun text htext => ?_
      cases v <;> simp_all [Json.texts]

end Scope

/-! ## Expanding -/

namespace Environment

variable {env : Environment}

/-- **A value is expanded to itself** exactly if each text inside it is. -/
theorem expand_eq_self_iff {v : Json} :
    env.expand v = v ↔ ∀ text ∈ v.texts, env.expandText text = text := by
  fun_induction Environment.expand env v with
  | case1 text => simp [Json.texts]
  | case2 items ih =>
      rw [Json.arr.injEq, map_eq_self_iff, Json.texts]
      simp only [List.mem_flatMap]
      constructor
      · rintro h text ⟨v, hv, htext⟩
        exact (ih v hv).mp (h v hv) text htext
      · intro h v hv
        exact (ih v hv).mpr fun text htext => h text ⟨v, hv, htext⟩
  | case3 fields ih =>
      rw [Json.obj.injEq, map_eq_self_iff, Json.texts]
      simp only [List.mem_flatMap, Prod.ext_iff, true_and]
      constructor
      · rintro h text ⟨e, he, htext⟩
        exact (ih e he).mp (h e he) text htext
      · intro h e he
        exact (ih e he).mpr fun text htext => h text ⟨e, he, htext⟩
  | case4 v hstr harr hobj =>
      refine iff_of_true rfl fun text htext => ?_
      cases v <;> simp_all [Json.texts]

/-- What is there, if anything, is expanded to itself exactly if its texts are. -/
theorem map_expand_eq_self_iff {value? : Option Json} : value?.map env.expand = value? ↔
    ∀ value, value? = some value → ∀ text ∈ value.texts, env.expandText text = text := by
  cases value? with
  | none => simp
  | some value => simp [expand_eq_self_iff]

theorem find?_expandFields (env : Environment) (fields : Record) (key : String) :
    Table.find? (env.expandFields fields) key = (Table.find? fields key).map env.expand :=
  Table.find?_mapValues env.expand fields key

end Environment
end StepPipeline
