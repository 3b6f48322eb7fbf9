import StepPipeline.Blocks.Scripted
import StepPipeline.Proofs.Document.Building
import StepPipeline.Proofs.Document.Reading
import StepPipeline.Proofs.Run.Visits

/-!
# What a run leaves in the slots

What a step writes is said here slot by slot (`Step.Writes`), by the output and by where it goes,
and not by the order in which a mapping is worked through. A mapping may send several fields to one
slot. The greatest of those that the output has wins, because it is stored last; for this a mapping
has to be sorted (`Step.Ordered`), as all are that were read.

* `Visit.slot_after_of_writes`, `Visit.slot_after_of_not_writes`: a visit writes just that, and a
  fault writes nothing;
* `Machine.slot_run_of_lastWrite`, `Machine.slot_run_of_unwritten`: of many writes to a slot the
  last is the one that stays, however often the run went over the same steps.

Main statement: `slots_hold_last_writes`.
-/

namespace StepPipeline

/-! ## What a step writes -/

/-- A mapping sends a field of the output to a slot. -/
structure OutputTarget.Sends (slots : Table String) (output : Record) (field slot : String)
    (value : Json) : Prop where
  mapped : Table.find? slots field = some slot
  present : Table.find? output field = some value

/-- What a step writes to a slot when its block answers with `output`. -/
inductive Step.Writes (step : Step) (output : Record) (slot : String) : Json → Prop
  /-- Of the fields that are sent to one slot the greatest wins. -/
  | field {slots : Table String} {field : String} {value : Json}
      (htarget : step.output = some (.mapping slots))
      (hsends : OutputTarget.Sends slots output field slot value)
      (hgreatest : ∀ other w, OutputTarget.Sends slots output other slot w → other ≤ field) :
      step.Writes output slot value
  | whole (htarget : step.output = some (.slot slot)) (hname : slot ≠ "") :
      step.Writes output slot (.obj output)
  | own (htarget : step.output = none ∨ step.output = some (.slot "")) (hid : slot = step.id) :
      step.Writes output slot (.obj output)

/-- The fields of a mapping come in their order. -/
def Step.Ordered (step : Step) : Prop :=
  ∀ slots, step.output = some (.mapping slots) → Table.Sorted slots

/-- What the block of a visit answered; a fault is no answer. -/
def Visit.output? (v : Visit) : Option Record :=
  match v.outcome with
  | .success output => some output
  | .softError output _ => some output
  | .fault _ => none

/-- A visit writes what its step does, unless the output is empty. -/
def Visit.Writes (v : Visit) (slot : String) (value : Json) : Prop :=
  ∃ output, v.output? = some output ∧ output ≠ [] ∧ v.step.Writes output slot value

/-! ## Mappings -/

namespace OutputTarget

variable {slots : Table String} {output : Record} {field slot : String} {value : Json}

def storeFields (slots : Table String) (output : Record) (bus : DataBus) : DataBus :=
  slots.foldl (fun bus e =>
    match Table.find? output e.1 with
    | some v => bus.set e.2 v
    | none => bus) bus

/-- What the rest of a mapping sends is sent by a greater field than the first. -/
theorem Sends.of_rest {e : String × String} (hsorted : Table.Sorted (e :: slots))
    (h : Sends slots output field slot value) :
    Sends (e :: slots) output field slot value ∧ e.1 < field := by
  have hlt : e.1 < field := (List.pairwise_cons.mp hsorted).1 _ (Table.mem_of_find? h.mapped)
  have hne : e.1 ≠ field := fun heq => String.lt_irrefl field (heq ▸ hlt)
  refine ⟨⟨?_, h.present⟩, hlt⟩
  rw [Table.find?_cons, if_neg hne]
  exact h.mapped

/-- What another field than the first sends is sent by the rest. -/
theorem Sends.rest {e : String × String} (h : Sends (e :: slots) output field slot value)
    (hne : e.1 ≠ field) : Sends slots output field slot value := by
  have hmapped := h.mapped
  rw [Table.find?_cons, if_neg hne] at hmapped
  exact ⟨hmapped, h.present⟩

/-- One field at a time, from the least on: what is stored last is sent by the greatest. -/
theorem storeFields_cons (e : String × String) (bus : DataBus) :
    storeFields (e :: slots) output bus = storeFields slots output
      (match Table.find? output e.1 with
      | some v => bus.set e.2 v
      | none => bus) := rfl

/-- A slot that nothing is sent to is left alone. -/
theorem slot_storeFields_of_not_sends (hsorted : Table.Sorted slots)
    (h : ∀ field value, ¬Sends slots output field slot value) (bus : DataBus) :
    Table.find? (storeFields slots output bus).slots slot = Table.find? bus.slots slot := by
  induction slots generalizing bus with
  | nil => rfl
  | cons e rest ih =>
      have hrest : ∀ field value, ¬Sends rest output field slot value :=
        fun field value hsends => h field value (hsends.of_rest hsorted).1
      rw [storeFields_cons, ih (List.pairwise_cons.mp hsorted).2 hrest]
      cases hpresent : Table.find? output e.1 with
      | none => rfl
      | some w =>
          have hne : slot ≠ e.2 := by
            rintro rfl
            exact h e.1 w ⟨by rw [Table.find?_cons, if_pos rfl], hpresent⟩
          exact Table.find?_insert_of_ne _ _ hne

/-- The greatest of the fields that are sent to a slot decides what it holds. -/
theorem slot_storeFields_of_sends (hsorted : Table.Sorted slots)
    (h : Sends slots output field slot value)
    (hgreatest : ∀ other w, Sends slots output other slot w → other ≤ field) (bus : DataBus) :
    Table.find? (storeFields slots output bus).slots slot = some value := by
  induction slots generalizing bus with
  | nil => cases h.mapped
  | cons e rest ih =>
      have hrest := (List.pairwise_cons.mp hsorted).2
      rw [storeFields_cons]
      by_cases hfirst : e.1 = field
      · -- The first field is the greatest, so no later one is sent to the slot.
        have hlater : ∀ other w, ¬Sends rest output other slot w := by
          intro other w hsends
          obtain ⟨hsends, hlt⟩ := hsends.of_rest hsorted
          exact hgreatest other w hsends (hfirst ▸ hlt)
        have hslot : e.2 = slot := by
          have hmapped := h.mapped
          rw [Table.find?_cons, if_pos hfirst] at hmapped
          exact Option.some.inj hmapped
        rw [slot_storeFields_of_not_sends hrest hlater, hfirst, h.present, hslot]
        exact Table.find?_insert_self _ _ _
      · exact ih hrest (h.rest hfirst)
          (fun other w hsends => hgreatest other w (hsends.of_rest hsorted).1) _

/-- Of the fields that are sent to a slot, if there are any, one is the greatest. -/
theorem exists_greatest (hsorted : Table.Sorted slots)
    (h : ∃ field value, Sends slots output field slot value) :
    ∃ field value, Sends slots output field slot value ∧
      ∀ other w, Sends slots output other slot w → other ≤ field := by
  induction slots with
  | nil =>
      obtain ⟨field, value, hsends⟩ := h
      cases hsends.mapped
  | cons e rest ih =>
      have hrest := (List.pairwise_cons.mp hsorted).2
      -- If the rest of the mapping sends anything, its greatest field is greater than the first
      -- one.
      by_cases hmore : ∃ field value, Sends rest output field slot value
      · obtain ⟨field, value, hsends, hle⟩ := ih hrest hmore
        obtain ⟨hsends, hlt⟩ := hsends.of_rest hsorted
        refine ⟨field, value, hsends, fun other w hother => ?_⟩
        by_cases hfirst : e.1 = other
        · exact hfirst ▸ String.not_lt.mp (String.lt_asymm hlt)
        · exact hle other w (hother.rest hfirst)
      · obtain ⟨field, value, hsends⟩ := h
        have honly : ∀ {other w}, Sends (e :: rest) output other slot w → e.1 = other :=
          fun hother => Classical.byContradiction fun hne => hmore ⟨_, _, hother.rest hne⟩
        refine ⟨field, value, hsends, fun other w hother => ?_⟩
        have hsame : other = field := (honly hother).symm.trans (honly hsends)
        exact hsame ▸ String.le_refl _

end OutputTarget

/-! ## One step -/

namespace Step

variable {step : Step} {output : Record} {slot : String} {value : Json}

/-- An empty output writes nothing, wherever it is to go. -/
theorem store_of_empty (step : Step) (bus : DataBus) : step.store bus [] = bus := rfl

theorem store_of_mapping {slots : Table String} (h : step.output = some (.mapping slots))
    (hne : output ≠ []) (bus : DataBus) :
    step.store bus output = OutputTarget.storeFields slots output bus := by
  rw [store, h, if_neg (by simpa using hne)]
  rfl

/-- An empty name stands for the id of the step. -/
theorem store_of_slot {name : String} (h : step.output = some (.slot name)) (hne : output ≠ [])
    (bus : DataBus) :
    step.store bus output = bus.set (if name = "" then step.id else name) (.obj output) := by
  rw [store, h, if_neg (by simpa using hne)]

theorem store_of_none (h : step.output = none) (hne : output ≠ []) (bus : DataBus) :
    step.store bus output = bus.set step.id (.obj output) := by
  rw [store, h, if_neg (by simpa using hne)]

/-- Soundness of `Step.Writes`: the slot holds what the step is said to write. -/
theorem slot_store_of_writes (hordered : step.Ordered) (hne : output ≠ [])
    (h : step.Writes output slot value) (bus : DataBus) :
    Table.find? (step.store bus output).slots slot = some value := by
  cases h with
  | field htarget hsends hgreatest =>
      rw [store_of_mapping htarget hne]
      exact OutputTarget.slot_storeFields_of_sends (hordered _ htarget) hsends hgreatest bus
  | whole htarget hname =>
      rw [store_of_slot htarget hne, if_neg hname]
      exact Table.find?_insert_self _ _ _
  | own htarget hid =>
      subst hid
      rcases htarget with htarget | htarget
      · rw [store_of_none htarget hne]
        exact Table.find?_insert_self _ _ _
      · rw [store_of_slot htarget hne, if_pos rfl]
        exact Table.find?_insert_self _ _ _

/-- And completeness: a slot that the step is not said to write is left alone. -/
theorem slot_store_of_not_writes (hordered : step.Ordered)
    (h : ∀ value, ¬step.Writes output slot value) (bus : DataBus) :
    Table.find? (step.store bus output).slots slot = Table.find? bus.slots slot := by
  by_cases hempty : output = []
  · rw [hempty, store_of_empty]
  · cases htarget : step.output with
    | none =>
        rw [store_of_none htarget hempty]
        exact Table.find?_insert_of_ne _ _ fun hid => h _ (.own (.inl htarget) hid)
    | some target =>
        cases target with
        | slot name =>
            rw [store_of_slot htarget hempty]
            refine Table.find?_insert_of_ne _ _ fun hslot => ?_
            split at hslot
            · next hname => exact h _ (.own (.inr (hname ▸ htarget)) hslot)
            · next hname =>
              subst hslot
              exact h _ (.whole htarget hname)
        | mapping slots =>
            have hsorted : Table.Sorted slots := hordered slots htarget
            rw [store_of_mapping htarget hempty]
            -- If a field were sent to the slot, the greatest such would be what the step writes.
            apply OutputTarget.slot_storeFields_of_not_sends hsorted
            intro field value hsends
            obtain ⟨greatest, w, hgreatest, hle⟩ :=
              OutputTarget.exists_greatest hsorted ⟨field, value, hsends⟩
            exact h w (.field htarget hgreatest hle)

end Step

/-! ## One visit -/

namespace Visit

variable {v : Visit} {slot : String} {value : Json}

/-- The slots change by what is stored of the answer. -/
theorem slots_after (steps : List Step) (v : Visit) : (v.after steps).bus.slots =
    match v.output? with
    | some output => (v.step.store v.before.bus output).slots
    | none => v.before.bus.slots := by
  unfold after output?
  cases h : v.outcome with
  | success output =>
      rw [taken_of_success h, (State.steer_frame ..).1, ← v.called_frame.1]
      rfl
  | softError output message =>
      rw [taken_of_softError h, ← v.called_frame.1]
      rfl
  | fault f =>
      rw [taken_of_fault h, ← v.called_frame.1]
      rfl

/-- The same of a visit, whose block has answered. -/
theorem slot_after_of_writes (hordered : v.step.Ordered) (h : v.Writes slot value)
    (steps : List Step) : Table.find? (v.after steps).bus.slots slot = some value := by
  obtain ⟨output, houtput, hne, hwrites⟩ := h
  rw [slots_after, houtput]
  exact Step.slot_store_of_writes hordered hne hwrites v.before.bus

/-- A fault, an empty answer or another slot: nothing happens to this one. -/
theorem slot_after_of_not_writes (hordered : v.step.Ordered) (h : ∀ value, ¬v.Writes slot value)
    (steps : List Step) :
    Table.find? (v.after steps).bus.slots slot = Table.find? v.before.bus.slots slot := by
  rw [slots_after]
  cases houtput : v.output? with
  | none => rfl
  | some output =>
      show Table.find? (v.step.store v.before.bus output).slots slot = _
      by_cases hempty : output = []
      · rw [hempty, Step.store_of_empty]
      · exact Step.slot_store_of_not_writes hordered
          (fun value hwrites => h value ⟨output, houtput, hempty, hwrites⟩) v.before.bus

/-- A step without an output target writes to the slot of its id only. -/
theorem not_writes_of_none (htarget : v.step.output = none) (hid : slot ≠ v.step.id)
    (value : Json) : ¬v.Writes slot value := by
  rintro ⟨output, -, -, hwrites⟩
  cases hwrites with
  | field h => cases htarget.symm.trans h
  | whole h => cases htarget.symm.trans h
  | own _ hslot => exact hid hslot

end Visit

/-! ## The run -/

def Unwritten (visits : List Visit) (slot : String) : Prop :=
  ∀ v ∈ visits, ∀ value, ¬v.Writes slot value

/-- A visit writes a value to a slot, and no later one writes to it. -/
def LastWrite (visits : List Visit) (slot : String) (value : Json) : Prop :=
  ∃ front v back, visits = front ++ v :: back ∧ v.Writes slot value ∧ Unwritten back slot

/-- A slot that is written is written for a last time. -/
theorem unwritten_or_exists_lastWrite (visits : List Visit) (slot : String) :
    Unwritten visits slot ∨ ∃ value, LastWrite visits slot value := by
  -- Induction on the visits: a write in the rest comes later than one by the first.
  induction visits with
  | nil => exact .inl fun v hv => by cases hv
  | cons v rest ih =>
      rcases ih with hrest | ⟨value, front, w, back, rfl, hlast⟩
      · by_cases hv : ∃ value, v.Writes slot value
        · obtain ⟨value, hwrites⟩ := hv
          exact .inr ⟨value, [], v, rest, rfl, hwrites, hrest⟩
        · exact .inl (List.forall_mem_cons.mpr ⟨not_exists.mp hv, hrest⟩)
      · exact .inr ⟨value, v :: front, w, back, rfl, hlast⟩

namespace Machine

variable {steps : List Step} {slot : String} {value : Json}

/-- Along a run a slot keeps its value as long as no visit writes to it. -/
theorem slot_run_of_unwritten (hordered : ∀ step ∈ steps, step.Ordered) {moves : Nat} {m : Machine}
    (h : Unwritten (visits steps moves m) slot) :
    Table.find? (run steps moves m).state.bus.slots slot =
      Table.find? m.state.bus.slots slot := by
  induction moves generalizing m with
  | zero => rfl
  | succ moves ih =>
      cases hnext : m.next? steps with
      | none => rw [run_of_finished (finished_iff.mpr hnext)]
      | some v =>
          obtain ⟨hstep, hbefore, -⟩ := next?_eq_some hnext
          rw [visits_succ_of_some hnext] at h
          obtain ⟨hv, hrest⟩ := List.forall_mem_cons.mp h
          rw [run_succ, ih hrest, advance_of_next? hnext]
          have hkept := Visit.slot_after_of_not_writes
            (hordered v.step (List.mem_of_getElem? hstep)) hv steps
          rw [hkept, hbefore]

/-- What is written last stays, since the rest of the run leaves the slot alone. -/
theorem slot_run_of_lastWrite (hordered : ∀ step ∈ steps, step.Ordered) {moves : Nat} {m : Machine}
    (h : LastWrite (visits steps moves m) slot value) :
    Table.find? (run steps moves m).state.bus.slots slot = some value := by
  obtain ⟨front, v, back, hvisits, hwrites, hback⟩ := h
  -- Induction on the moves, up to the visit that writes.
  induction moves generalizing m front with
  | zero => simp at hvisits
  | succ moves ih =>
      cases hnext : m.next? steps with
      | none =>
          rw [visits_succ_of_none hnext] at hvisits
          simp at hvisits
      | some first =>
          rw [visits_succ_of_some hnext] at hvisits
          rw [run_succ]
          cases front with
          | cons _ front => exact ih front (List.cons.inj hvisits).2
          | nil =>
              -- The write is the first visit, and all others leave the slot alone.
              obtain ⟨rfl, rfl⟩ := List.cons.inj hvisits
              have hstep := (next?_eq_some hnext).1
              rw [slot_run_of_unwritten hordered hback, advance_of_next? hnext]
              have hfirst := hordered _ (List.mem_of_getElem? hstep)
              exact Visit.slot_after_of_writes hfirst hwrites steps

end Machine

/-- The steps of a document that was read from a text are ordered. -/
theorem Workbench.ordered_of_build {b : Workbench} {text : String} {d : Document} {p : Pipeline}
    (hread : Document.parse? text = some d) (hbuild : b.build d = .ok p) :
    ∀ step ∈ p.steps, step.Ordered := by
  intro step hstep slots hslots
  obtain ⟨i, hi⟩ := List.mem_iff_getElem?.mp hstep
  obtain ⟨spec, hspec, hmade⟩ := makeStep_of_build hbuild hi
  obtain ⟨-, -, -, houtput, -⟩ := makeStep_eq_ok hmade
  exact Document.outputSorted_of_parse? hread (List.mem_of_getElem? hspec) slots (houtput ▸ hslots)

/-- **Slots hold what the steps wrote last.** After a call of a pipeline whose mappings are sorted,
however often steps were taken again, a slot that some visit wrote holds the value of the last such
visit. A slot that no visit wrote holds what it held before, the input slot the input of the call;
so a slot that was not there and was not written is not there now. -/
theorem slots_hold_last_writes (p : Pipeline) (hordered : ∀ step ∈ p.steps, step.Ordered)
    (moves : Nat) (input initial : Record) (slot : String) :
    let visits := p.visits moves input initial
    let found := Table.find? (p.runFor moves input initial).1.state.bus.slots slot
    (Unwritten visits slot ∨ ∃ value, LastWrite visits slot value) ∧
    (∀ value, LastWrite visits slot value → found = some value) ∧
    (Unwritten visits slot → found =
      if slot = DataBus.inputSlot then some (.obj input)
      else Table.find? p.state.bus.slots slot) := by
  intro visits found
  refine ⟨unwritten_or_exists_lastWrite visits slot, fun value hlast => ?_, fun hunwritten => ?_⟩
  · exact Machine.slot_run_of_lastWrite hordered hlast
  · have hkept : found = Table.find? (p.machine input initial).state.bus.slots slot :=
      Machine.slot_run_of_unwritten hordered hunwritten
    rw [hkept]
    exact Table.find?_insert _ _ _ _

/-- A step that answers differently the second time, with two fields for one slot, and a step that
goes back to it once. -/
def answerTwice : Pipeline where
  steps := [
    { id := "answer", input := some (.record []),
      block := Blocks.sequence [("outputs", .arr [
        .obj [("a", .nat 1)], .obj [("a", .nat 2), ("b", .nat 3)]])],
      output := some (.mapping [("a", "found"), ("b", "found"), ("c", "other")]) },
    { id := "again", input := some (.record []), block := Blocks.fixed [("output", .obj [
        ("_loopTo", .nat 0), ("_maxLoops", .nat 1)])] }]

theorem ordered_answerTwice : ∀ step ∈ answerTwice.steps, step.Ordered := by
  intro step hstep slots htarget
  simp only [answerTwice, List.mem_cons, List.not_mem_nil, or_false] at hstep
  rcases hstep with rfl | rfl
  · obtain rfl := OutputTarget.mapping.inj (Option.some.inj htarget)
    show List.Pairwise (fun a b : String × String => a.1 < b.1) _
    decide
  · cases htarget

/-- The third visit is the last to write the slot, and has two fields for it. -/
theorem lastWrite_answerTwice :
    LastWrite (answerTwice.visits 4 [] []) "found" (.nat 3) := by
  have hgreatest : ∀ other w, OutputTarget.Sends [("a", "found"), ("b", "found"), ("c", "other")]
      [("a", .nat 2), ("b", .nat 3)] other "found" w → other ≤ "b" := by
    intro other w hsends
    have hmem := Table.mem_of_find? hsends.present
    simp only [List.mem_cons, Prod.mk.injEq, List.not_mem_nil, or_false] at hmem
    rcases hmem with ⟨rfl, -⟩ | ⟨rfl, -⟩ <;> decide
  have hsends : OutputTarget.Sends [("a", "found"), ("b", "found"), ("c", "other")]
      [("a", .nat 2), ("b", .nat 3)] "b" "found" (.nat 3) := ⟨rfl, rfl⟩
  refine ⟨[_, _], _, [_], rfl, ⟨[("a", .nat 2), ("b", .nat 3)], rfl, by simp, ?_⟩, ?_⟩
  · exact .field rfl hsends hgreatest
  · exact List.forall_mem_singleton.mpr (Visit.not_writes_of_none rfl (by decide))

/-- The slot holds the greater field of the second answer. -/
theorem answerTwice_slots :
    (∀ step ∈ answerTwice.steps, step.Ordered) ∧
    LastWrite (answerTwice.visits 4 [] []) "found" (.nat 3) ∧
    Table.find? (answerTwice.runFor 4 [] []).1.state.bus.slots "found" = some (.nat 3) := by
  obtain ⟨-, hlast, -⟩ := slots_hold_last_writes answerTwice ordered_answerTwice 4 [] [] "found"
  exact ⟨ordered_answerTwice, lastWrite_answerTwice, hlast _ lastWrite_answerTwice⟩

end StepPipeline
