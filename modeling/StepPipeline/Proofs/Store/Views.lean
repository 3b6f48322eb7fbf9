import StepPipeline.Run.Pipeline

/-!
# The views of the data bus

The data bus is read by name (`get?`, `contains`), by path (`lookup?`) and as a whole (`toRecord`,
`isEmpty`). Two reserved names stand for notes that are kept apart from the slots, how the steps
went and the latest error. While nothing is noted, `_meta` is a slot like any other. For `_error`
the views differ then: read by name there is nothing, but the record has the slot. Such a slot is
hidden (`HidesErrorSlot`), and it is all that keeps the views from agreeing.

Which operations lead to a hidden slot is said by `HidesErrorSlot.before_all`. Main statement:
`views_agree`.
-/

namespace StepPipeline

/-- Needed for `isEmpty_iff`: a note puts an entry into the record. -/
theorem Table.insert_ne_nil {α : Type} (t : Table α) (key : String) (value : α) :
    insert t key value ≠ [] := by
  cases t with
  | nil => simp [insert]
  | cons e rest =>
      rw [insert]
      split
      · simp
      · split <;> simp

namespace DataBus

variable {b : DataBus} {key : String}

/-- There is a slot of the name `_error`, and no error is noted. -/
def HidesErrorSlot (b : DataBus) : Prop :=
  b.lastError = none ∧ Table.contains b.slots errorKey = true

/-! ## By name and as a whole -/

theorem errorKey_ne_metaKey : errorKey ≠ metaKey := by decide

/-- The notes stand over the slots: the error over everything, the runs over the slots if there are
any. -/
theorem find?_toRecord (b : DataBus) (key : String) : Table.find? b.toRecord key =
    (if key = errorKey then b.lastError.map Json.str else none).or
      (if key = metaKey ∧ b.steps ≠ [] then some b.runsValue else Table.find? b.slots key) := by
  have hruns : Table.find? (if b.steps = [] then b.slots
      else Table.insert b.slots metaKey b.runsValue) key =
      if key = metaKey ∧ b.steps ≠ [] then some b.runsValue else Table.find? b.slots key := by
    split
    · next hsteps => simp [hsteps]
    · next hsteps => simp [hsteps, Table.find?_insert]
  rw [← hruns]
  unfold toRecord
  cases b.lastError with
  | none => simp
  | some message =>
      show Table.find? (Table.insert _ errorKey (Json.str message)) key = _
      rw [Table.find?_insert]
      split <;> rfl

/-- By name the error is the note alone, whatever slot there may be. -/
theorem get?_errorKey (b : DataBus) : b.get? errorKey = b.lastError.map Json.str := by
  unfold get?
  rw [if_neg (fun h => errorKey_ne_metaKey h.1), if_pos rfl]

/-- The record falls through to the slot when no error is noted; `get?_errorKey` does not. -/
theorem find?_toRecord_errorKey (b : DataBus) : Table.find? b.toRecord errorKey =
    (b.lastError.map Json.str).or (Table.find? b.slots errorKey) := by
  rw [find?_toRecord, if_pos rfl, if_neg fun h => errorKey_ne_metaKey h.1]

/-- Whatever is not hidden is the same by name and in the record. -/
theorem get?_eq_find?_toRecord (h : ¬(key = errorKey ∧ b.HidesErrorSlot)) :
    b.get? key = Table.find? b.toRecord key := by
  by_cases hkey : key = errorKey
  · subst hkey
    rw [get?_errorKey, find?_toRecord_errorKey]
    cases herror : b.lastError with
    | some message => rfl
    | none =>
        -- A slot of this name would be hidden.
        have hslot : Table.contains b.slots errorKey = false :=
          Bool.eq_false_iff.mpr fun hslot => h ⟨rfl, herror, hslot⟩
        exact (Option.not_isSome_iff_eq_none.mp (Bool.eq_false_iff.mp hslot)).symm
  · unfold get?
    rw [find?_toRecord, if_neg hkey, if_neg hkey]
    rfl

/-- What is hidden is not found by name, but stands in the record. -/
theorem HidesErrorSlot.get?_ne (h : b.HidesErrorSlot) :
    b.get? errorKey = none ∧ Table.contains b.toRecord errorKey = true := by
  obtain ⟨herror, hslot⟩ := h
  constructor
  · rw [get?_errorKey, herror]
    rfl
  · rw [Table.contains, find?_toRecord_errorKey, herror]
    exact hslot

/-- A hidden slot is the only difference between reading by name and in the record. -/
theorem get?_eq_find?_toRecord_iff :
    b.get? key = Table.find? b.toRecord key ↔ ¬(key = errorKey ∧ b.HidesErrorSlot) := by
  refine ⟨?_, get?_eq_find?_toRecord⟩
  rintro heq ⟨rfl, hhides⟩
  obtain ⟨hnone, hsome⟩ := hhides.get?_ne
  rw [Table.contains, ← heq, hnone] at hsome
  cases hsome

/-- Asking for a name differs in the same case. -/
theorem contains_eq_iff :
    b.contains key = Table.contains b.toRecord key ↔ ¬(key = errorKey ∧ b.HidesErrorSlot) := by
  constructor
  · rintro heq ⟨rfl, hhides⟩
    obtain ⟨hnone, hsome⟩ := hhides.get?_ne
    rw [hsome, contains, hnone] at heq
    cases heq
  · intro hseen
    rw [contains, get?_eq_find?_toRecord hseen]
    rfl

/-- A hidden slot makes no difference here, since both sides see that it is there. -/
theorem isEmpty_iff : b.isEmpty = true ↔ b.toRecord = [] := by
  unfold isEmpty toRecord
  cases b.lastError with
  | some message => simp [Table.insert_ne_nil]
  | none =>
      by_cases hsteps : b.steps = []
      · simp [hsteps]
      · simp [hsteps, Table.insert_ne_nil]

/-! ## By path -/

variable {path name : String} {rest : Path}

/-- A path that is no name in the record is walked from the slot of its first part. -/
theorem lookup?_of_not_contains (h : Table.contains b.toRecord path = false)
    (hparse : Path.parse path = .key name :: rest) :
    b.lookup? path = (b.get? name).bind fun root => root.getAt? rest := by
  -- If `_error` were hidden, it would be a name in the record.
  have hseen : ¬(path = errorKey ∧ b.HidesErrorSlot) := by
    rintro ⟨rfl, hhides⟩
    rw [hhides.get?_ne.2] at h
    cases h
  have hnone : b.get? path = none := by
    rw [get?_eq_find?_toRecord hseen]
    exact Option.not_isSome_iff_eq_none.mp (Bool.eq_false_iff.mp h)
  unfold lookup?
  rw [hnone, hparse]

/-- In the record a path leads through the entry of its first part. -/
theorem getAt?_toRecord (hparse : Path.parse path = .key name :: rest) :
    (Json.obj b.toRecord).get? path =
      (Table.find? b.toRecord name).bind fun root => root.getAt? rest := by
  rw [Json.get?, hparse]
  rfl

/-! ## After any operations -/

/-- Everything that a run does to its data bus. -/
inductive Operation where
  | set (key : String) (value : Json)
  | remove (key : String)
  | noteRun (step : String) (run : LastRun)
  | noteError (message : String)
  | clear

def perform (b : DataBus) : Operation → DataBus
  | .set key value => b.set key value
  | .remove key => b.remove key
  | .noteRun step run => b.noteRun step run
  | .noteError message => b.noteError message
  | .clear => {}

def performAll (b : DataBus) (operations : List Operation) : DataBus := operations.foldl perform b

/-- The operations that uncover a hidden slot, or drop it. -/
def Operation.uncovers : Operation → Bool
  | .set _ _ => false
  | .remove key => key = errorKey
  | .noteRun _ _ => false
  | .noteError _ => true
  | .clear => true

/-- An operation after which a slot is hidden has written it, or it was hidden before. -/
theorem HidesErrorSlot.before {op : Operation} (h : (b.perform op).HidesErrorSlot) :
    (∃ value, op = .set errorKey value) ∨ b.HidesErrorSlot ∧ op.uncovers = false := by
  obtain ⟨herror, hslot⟩ := h
  -- Case by case: only writing the slot hides it, and notes of errors uncover it.
  cases op with
  | set key value =>
      by_cases hkey : key = errorKey
      · exact .inl ⟨value, by rw [hkey]⟩
      · refine .inr ⟨⟨herror, ?_⟩, rfl⟩
        rw [← hslot]
        show _ = (Table.find? (Table.insert b.slots key value) errorKey).isSome
        rw [Table.find?_insert_of_ne _ _ (Ne.symm hkey)]
        rfl
  | remove key =>
      have hfound : (Table.find? (Table.erase b.slots key) errorKey).isSome = true := hslot
      rw [Table.find?_erase] at hfound
      split at hfound
      · cases hfound
      · next hkey => exact .inr ⟨⟨herror, hfound⟩, decide_eq_false (Ne.symm hkey)⟩
  | noteRun step run => exact .inr ⟨⟨herror, hslot⟩, rfl⟩
  | noteError message => cases herror
  | clear => cases hslot

/-- If a slot is hidden after operations, one of them has written it, or it was hidden before; and
since then nothing has uncovered it. -/
theorem HidesErrorSlot.before_all {operations : List Operation}
    (h : (b.performAll operations).HidesErrorSlot) :
    (∃ before value after, operations = before ++ .set errorKey value :: after ∧
      ∀ op ∈ after, op.uncovers = false) ∨
    b.HidesErrorSlot ∧ ∀ op ∈ operations, op.uncovers = false := by
  -- Induction on the operations from the first one on, for any bus to begin with: the write that is
  -- looked for is the last one.
  induction operations generalizing b with
  | nil => exact .inr ⟨h, by simp⟩
  | cons op rest ih =>
      rcases ih h with ⟨before, value, after, rfl, hafter⟩ | ⟨hhides, hrest⟩
      · exact .inl ⟨op :: before, value, after, rfl, hafter⟩
      · rcases hhides.before with ⟨value, rfl⟩ | ⟨hbefore, hop⟩
        · exact .inl ⟨[], value, rest, rfl, hrest⟩
        · exact .inr ⟨hbefore, List.forall_mem_cons.mpr ⟨hop, hrest⟩⟩

/-! ## All readers -/

/-- What the readers of a bus are given under a name: a placeholder that the context does not know,
a step that takes the name for an input, a step that takes the whole bus, and whoever reads the
result of a run. -/
structure ReadAs (b : DataBus) (key : String) (value : Json) : Prop where
  placeholder : ∀ (scope : Scope) (text : String), scope.bus = b →
    Table.find? scope.values (Scope.contextKey key) = none → Template.whole? text = some key →
    scope.resolveText text = some value
  source : ∀ (scope : Scope) (step : Step) (name : String), scope.bus = b →
    step.input = some (.source key (some name)) → step.supplied scope = [(name, value)]
  whole : ∀ (scope : Scope) (step : Step), scope.bus = b → step.input = none →
    Table.find? (step.supplied scope) key = some value
  result : ∀ s : State, s.bus = b → Table.find? (Pipeline.result s).data key = some value

/-- What the record has and does not hide is what all readers are given. -/
theorem readAs_of_find? {value : Json} (hrecord : Table.find? b.toRecord key = some value)
    (hseen : ¬(key = errorKey ∧ b.HidesErrorSlot)) : b.ReadAs key value := by
  have hlookup : b.lookup? key = some value := by
    unfold lookup?
    rw [get?_eq_find?_toRecord hseen, hrecord]
  constructor
  · rintro scope text rfl hcontext hwhole
    rw [Scope.resolveText, hwhole]
    show scope.lookup? key = some value
    rw [Scope.lookup?, hcontext]
    exact hlookup
  · rintro scope step name rfl hinput
    unfold Step.supplied
    rw [hinput]
    dsimp only
    rw [hlookup]
  · rintro scope step rfl hinput
    rw [Step.supplied, hinput]
    exact hrecord
  · rintro s rfl
    exact hrecord

/-! ## All views -/

/-- **The views of the data bus agree**, a hidden slot apart. After any operations on the empty bus,
reading by name, asking for a name and reading by path agree with the record, and the bus is empty
exactly if the record is. If there is a slot `_error` that was written without an error being noted
since, then it stands in the record, but is not found by name nor by any path into it. -/
theorem views_agree (operations : List Operation) :
    let b := performAll {} operations
    (∀ key, b.get? key = Table.find? b.toRecord key ↔ ¬(key = errorKey ∧ b.HidesErrorSlot)) ∧
    (∀ key, b.contains key = Table.contains b.toRecord key ↔
      ¬(key = errorKey ∧ b.HidesErrorSlot)) ∧
    (b.isEmpty = true ↔ b.toRecord = []) ∧
    (∀ path name rest, Table.contains b.toRecord path = false →
      Path.parse path = .key name :: rest →
      (¬(name = errorKey ∧ b.HidesErrorSlot) →
        b.lookup? path = (Json.obj b.toRecord).get? path) ∧
      (name = errorKey ∧ b.HidesErrorSlot → b.lookup? path = none)) ∧
    (b.HidesErrorSlot → ∃ before value after,
      operations = before ++ .set errorKey value :: after ∧
      ∀ op ∈ after, op.uncovers = false) ∧
    ∀ key value, Table.find? b.toRecord key = some value →
      ¬(key = errorKey ∧ b.HidesErrorSlot) → b.ReadAs key value := by
  intro b
  refine ⟨fun key => get?_eq_find?_toRecord_iff, fun key => contains_eq_iff, isEmpty_iff, ?_, ?_,
    ?_⟩
  · intro path name rest habsent hparse
    rw [lookup?_of_not_contains habsent hparse]
    constructor
    · intro hseen
      rw [getAt?_toRecord hparse, get?_eq_find?_toRecord hseen]
    · rintro ⟨rfl, hhides⟩
      rw [hhides.get?_ne.1]
      rfl
  · intro hhides
    rcases hhides.before_all with hwritten | ⟨⟨-, hslot⟩, -⟩
    · exact hwritten
    · cases hslot
  · intro key value hrecord hseen
    exact readAs_of_find? hrecord hseen

/-- A step leaves an output in the slot `_error`, and another step runs well. -/
def leftUnderErrorKey : List Operation := [
  .set errorKey (.obj [("code", .bool true)]),
  .noteRun "fetch" (.ofSuccess 0)]

/-- The record has the output, but neither its name nor a path into it is found. The note on the
step is found both ways, and all readers are given it. -/
theorem leftUnderErrorKey_hidden :
    let b := performAll {} leftUnderErrorKey
    b.HidesErrorSlot ∧ b.get? "_error" ≠ Table.find? b.toRecord "_error" ∧
    b.lookup? "_error.code" = none ∧
    (Json.obj b.toRecord).get? "_error.code" = some (.bool true) ∧
    b.lookup? "_meta.fetch.success" = (Json.obj b.toRecord).get? "_meta.fetch.success" ∧
    b.ReadAs "_meta" b.runsValue := by
  intro b
  have hhides : b.HidesErrorSlot := ⟨rfl, rfl⟩
  have hmeta : ¬("_meta" = errorKey ∧ b.HidesErrorSlot) := fun h => absurd h.1 (by decide)
  obtain ⟨hnames, -, -, hpaths, -, hreaders⟩ := views_agree leftUnderErrorKey
  refine ⟨hhides, ?_, ?_, rfl, ?_, ?_⟩
  · exact fun h => (hnames "_error").mp h ⟨rfl, hhides⟩
  · exact (hpaths "_error.code" "_error" [.key "code"] rfl (by decide +kernel)).2 ⟨rfl, hhides⟩
  · exact (hpaths "_meta.fetch.success" "_meta" [.key "fetch", .key "success"] rfl
      (by decide +kernel)).1 hmeta
  · exact hreaders "_meta" b.runsValue rfl hmeta

end DataBus
end StepPipeline
