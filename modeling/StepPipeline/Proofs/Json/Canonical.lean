import StepPipeline.Json.Shape
import StepPipeline.Proofs.Store.Names

/-!
# Values that are read are canonical

A text may give a name twice; of such entries only the last is kept, and the records of the value
are sorted. So whatever `Json.parse?` returns is canonical.
-/

namespace StepPipeline

theorem Json.canonical_ofList {entries : List (String × Json)} (h : ∀ e ∈ entries, e.2.Canonical) :
    (Json.obj (Table.ofList entries)).Canonical := by
  refine ⟨Table.sorted_ofList entries, canonicalFields_iff.mpr fun e he => ?_⟩
  rcases Table.mem_of_mem_overlay he with hnil | hentry
  · cases hnil
  · exact h e hentry

namespace Written

mutual

/-- The value that a text denotes is canonical. -/
theorem canonical_of_value? : ∀ (w : Written) (depth : Nat) {v : Json},
    w.value? depth = some v → v.Canonical
  | .null, depth, _, h => by
      cases depth <;> cases h <;> trivial
  | .bool _, depth, _, h => by
      cases depth <;> cases h <;> trivial
  | .num n, depth, _, h => by
      rw [value?] at h
      obtain ⟨_, -, rfl⟩ := Option.map_eq_some_iff.mp h
      trivial
  | .str s, depth, _, h => by
      rw [value?] at h
      obtain ⟨_, -, rfl⟩ := Option.map_eq_some_iff.mp h
      trivial
  | .arr _, 0, _, h => by cases h
  | .arr items, depth + 1, _, h => by
      rw [value?] at h
      obtain ⟨vs, hvs, rfl⟩ := Option.map_eq_some_iff.mp h
      refine Json.canonicalItems_iff.mpr ?_
      exact canonical_of_values? items depth [] hvs fun _ hv => by cases hv
  | .obj _, 0, _, h => by cases h
  | .obj fields, depth + 1, _, h => by
      rw [value?] at h
      obtain ⟨es, hes, rfl⟩ := Option.map_eq_some_iff.mp h
      refine Json.canonical_ofList ?_
      exact canonical_of_entries? fields depth [] hes fun _ he => by cases he

/-- So are the values of a list. -/
theorem canonical_of_values? : ∀ (ws : List Written) (depth : Nat) (acc : List Json)
    {vs : List Json}, values? ws depth acc = some vs → (∀ v ∈ acc, v.Canonical) →
    ∀ v ∈ vs, v.Canonical
  | [], _, acc, _, h, hacc => by
      rw [values?] at h
      obtain rfl := Option.some.inj h
      exact fun v hv => hacc v (List.mem_reverse.mp hv)
  | w :: rest, depth, acc, _, h, hacc => by
      rw [values?] at h
      split at h
      · next v hv =>
        refine canonical_of_values? rest depth (v :: acc) h ?_
        exact List.forall_mem_cons.mpr ⟨canonical_of_value? w depth hv, hacc⟩
      · cases h

/-- So are the values of the entries of an object. -/
theorem canonical_of_entries? : ∀ (ws : List (Option String × Written)) (depth : Nat)
    (acc : List (String × Json)) {es : List (String × Json)}, entries? ws depth acc = some es →
    (∀ e ∈ acc, e.2.Canonical) → ∀ e ∈ es, e.2.Canonical
  | [], _, acc, _, h, hacc => by
      rw [entries?] at h
      obtain rfl := Option.some.inj h
      exact fun e he => hacc e (List.mem_reverse.mp he)
  | (none, _) :: _, _, _, _, h, _ => by cases h
  | (some k, w) :: rest, depth, acc, _, h, hacc => by
      simp only [entries?] at h
      split at h
      · next hkey hv =>
        obtain rfl := Option.some.inj hkey
        refine canonical_of_entries? rest depth ((k, _) :: acc) h ?_
        exact List.forall_mem_cons.mpr ⟨canonical_of_value? w depth hv, hacc⟩
      · cases h

end

end Written

/-- Whatever is read from a text is canonical. -/
theorem Json.canonical_of_parse? {text : String} {v : Json} (h : Json.parse? text = some v) :
    v.Canonical := by
  obtain ⟨w, -, hw⟩ := Option.bind_eq_some_iff.mp h
  exact Written.canonical_of_value? w Written.maxDepth hw

end StepPipeline
