import StepPipeline.Blocks.Assertion
import StepPipeline.Blocks.Steering
import StepPipeline.Document.Lint
import StepPipeline.Proofs.Document.Building

/-!
# Conditions that were checked

A list of conditions is well-formed (`Condition.WellFormed`) if it is read and the operator of each
condition is known and has the operand that it needs. This is what can be checked without data. The
evaluation of a condition makes the same check first (`holds_eq`), and behind it only a pattern that
cannot be read is left to go wrong.

* `badPatternIn_of_listHolds`: well-formed conditions fail with nothing else, whatever the data;
* `Blocks.badPattern_or_missing`: the same of all blocks that evaluate conditions;
* `Blocks.wellFormed_of_process`: an assertion that answers was given well-formed conditions. It
  evaluates all of them, where the other blocks stop at the first that is false.
-/

namespace StepPipeline

/-! ## One condition -/

namespace Pattern

theorem ofOperand_eq_error {operand : Json} {f : Fault} (h : ofOperand operand = .error f) :
    ∃ e, read operand.toText = .error e ∧ f = .invalidPattern operand.toText e.message := by
  unfold ofOperand at h
  split at h
  · cases h
  · next e hread => exact ⟨e, hread, (Except.error.inj h).symm⟩

end Pattern

namespace Operator

variable {value : Option Json} {operand : Json} {f : Fault}

theorem matched_eq_error {otherwise : Bool} {test : Bool → Bool}
    (h : matched value operand otherwise test = .error f) :
    Pattern.ofOperand operand = .error f := by
  unfold matched at h
  split at h
  · cases hpattern : Pattern.ofOperand operand with
    | ok node => rw [hpattern] at h; cases h
    | error g => rw [hpattern] at h; exact congrArg _ (Except.error.inj h)
  · cases h

/-- Of all operators only the two that match read their operand as a pattern. -/
theorem holds_eq_error {op : Operator} (h : op.holds value operand = .error f) :
    (op = .fits ∨ op = .notFits) ∧ Pattern.ofOperand operand = .error f := by
  cases op with
  | fits => exact ⟨.inl rfl, matched_eq_error h⟩
  | notFits => exact ⟨.inr rfl, matched_eq_error h⟩
  | _ => cases h

theorem name_of_ofName {name : String} {op : Operator} (h : ofName name = .ok op) :
    op.name = name := by
  unfold ofName at h
  split at h
  · next found hfound =>
    obtain rfl := Except.ok.inj h
    exact name_of_ofName? hfound
  · cases h

end Operator

namespace Condition

/-- The operand of a condition is no pattern although it is matched with, and a fault says so. -/
structure HasBadPattern (c : Condition) (f : Fault) : Prop where
  operator : c.operator = Operator.fits.name ∨ c.operator = Operator.notFits.name
  unreadable : ∃ operand e, c.value = some operand ∧ Pattern.read operand.toText = .error e ∧
    f = .invalidPattern operand.toText e.message

variable {data conditions : Json} {c : Condition} {cs : List Condition} {f : Fault}

/-- What the check of an operator leaves: its name is known, and its operand is there if it needs
one. -/
theorem usableOperator_eq_ok {op : Operator} (h : c.usableOperator = .ok op) :
    op.name = c.operator ∧ (op.needsOperand = true → ∃ operand, c.value = some operand) := by
  obtain ⟨found, hfound, h⟩ := Except.bind_eq_ok h
  split at h
  · cases h
  · next hneeds =>
    obtain rfl := Except.ok.inj h
    refine ⟨Operator.name_of_ofName hfound, fun hop => ?_⟩
    cases hvalue : c.value with
    | some operand => exact ⟨operand, rfl⟩
    | none => simp [hop, hvalue] at hneeds

/-- The evaluation of a condition begins with the check of its operator. -/
theorem holds_eq (data : Json) (c : Condition) : c.holds data =
    c.usableOperator >>= fun op => op.holds (data.get? c.path) (c.value.getD .null) := by
  rw [holds, Operator.decide, usableOperator]
  cases Operator.ofName c.operator with
  | error f => rfl
  | ok op =>
      -- Only without an operand does it matter whether the operator needs one.
      cases hvalue : c.value with
      | some operand => simp only [Option.isNone_some, Bool.and_false]; rfl
      | none =>
          cases hneeds : op.needsOperand <;> simp [bind, Except.bind, hneeds] <;> rfl

/-- Behind the check of the operator only the pattern is left to fail. -/
theorem hasBadPattern_of_holds {op : Operator} (husable : c.usableOperator = .ok op)
    (h : c.holds data = .error f) : c.HasBadPattern f := by
  rw [holds_eq, husable] at h
  obtain ⟨hname, hvalue⟩ := usableOperator_eq_ok husable
  obtain ⟨hop, hpattern⟩ := Operator.holds_eq_error h
  have hneeds : op.needsOperand = true := by rcases hop with rfl | rfl <;> rfl
  obtain ⟨operand, hoperand⟩ := hvalue hneeds
  rw [hoperand] at hpattern
  obtain ⟨e, hread, hf⟩ := Pattern.ofOperand_eq_error hpattern
  refine ⟨?_, operand, e, hoperand, hread, hf⟩
  rw [← hname]
  exact hop.imp (congrArg _) (congrArg _)

/-- Converse to the check: no condition is decided by an operator that cannot be used. -/
theorem usable_of_holds {holds : Bool} (h : c.holds data = .ok holds) :
    ∃ op, c.usableOperator = .ok op := by
  rw [holds_eq] at h
  obtain ⟨op, hop, -⟩ := Except.bind_eq_ok h
  exact ⟨op, hop⟩

/-! ## Lists -/

/-- A value lists conditions, and the operators of all of them can be used. -/
def WellFormed (conditions : Json) : Prop :=
  ∃ cs, readAll conditions = .ok cs ∧ ∀ c ∈ cs, ∃ op, c.usableOperator = .ok op

/-- A fault is about the pattern of one of the conditions that a value lists. -/
def BadPatternIn (conditions : Json) (f : Fault) : Prop :=
  ∃ cs, readAll conditions = .ok cs ∧ ∃ c ∈ cs, c.HasBadPattern f

/-- A fault of a list is that of one of its conditions. -/
theorem allHold_eq_error (h : allHold data cs = .error f) : ∃ c ∈ cs, c.holds data = .error f := by
  induction cs with
  | nil => cases h
  | cons c rest ih =>
      rw [allHold] at h
      split at h
      · obtain ⟨c', hc', hf⟩ := ih h
        exact ⟨c', List.mem_cons_of_mem _ hc', hf⟩
      · cases h
      · next g hg => exact ⟨c, List.mem_cons_self, hg.trans h⟩

theorem WellFormed.badPatternIn (hwell : WellFormed conditions)
    (hread : readAll conditions = .ok cs) (h : ∃ c ∈ cs, c.holds data = .error f) :
    BadPatternIn conditions f := by
  obtain ⟨found, hfound, husable⟩ := hwell
  obtain rfl := Except.ok.inj (hread.symm.trans hfound)
  obtain ⟨c, hc, hf⟩ := h
  obtain ⟨op, hop⟩ := husable c hc
  exact ⟨cs, hread, c, hc, hasBadPattern_of_holds hop hf⟩

/-- Safety of the check: what it lets through fails for a pattern or not at all. -/
theorem badPatternIn_of_listHolds (hwell : WellFormed conditions)
    (h : listHolds data conditions = .error f) : BadPatternIn conditions f := by
  obtain ⟨cs, hread, -⟩ := id hwell
  rw [listHolds, hread] at h
  exact hwell.badPatternIn hread (allHold_eq_error h)

/-- The check of a document finds nothing exactly if the conditions are well-formed. -/
theorem conditionProblems_eq_nil_iff :
    Lint.conditionProblems conditions = [] ↔ WellFormed conditions := by
  unfold Lint.conditionProblems WellFormed
  cases hread : readAll conditions with
  | error g => simp
  | ok cs =>
      dsimp only
      -- Each condition adds a problem exactly if its operator cannot be used.
      rw [List.filterMap_eq_nil_iff]
      constructor
      · intro h
        refine ⟨cs, rfl, fun c hc => ?_⟩
        cases hop : c.usableOperator with
        | ok op => exact ⟨op, rfl⟩
        | error g =>
            have hnone := h c hc
            rw [hop] at hnone
            cases hnone
      · rintro ⟨found, hfound, husable⟩ c hc
        obtain rfl := Except.ok.inj hfound
        obtain ⟨op, hop⟩ := husable c hc
        rw [hop]

end Condition

/-! ## Blocks -/

namespace Blocks

def judging : List Block := [assertion, loop, terminate]

variable {data conditions : Json} {cs : List Condition} {inputs : Record} {context : Context}
  {calls : Nat} {f : Fault}

/-- The fault of an input that a block insists on names the block's type. -/
theorem required_eq_error {type name : String} (h : Block.required type inputs name = .error f) :
    Table.find? inputs name = none ∧ f = .missingInputs type [name] := by
  unfold Block.required at h
  split at h
  · cases h
  · next hnone => exact ⟨hnone, (Except.error.inj h).symm⟩

/-- The steps of an assertion that is given conditions. -/
theorem process_assertion_eq (hconditions : Table.find? inputs "conditions" = some conditions)
    (calls : Nat) (context : Context) : (assertion.process calls inputs context).result =
      Block.required "assert" inputs "data" >>= fun data =>
        Condition.readAll conditions >>= fun cs =>
          failing data cs >>= fun failed => .ok (verdict inputs data failed cs.length) := by
  simp only [assertion, Block.reading, Block.required, hconditions]
  rfl

theorem failing_eq_error (h : failing data cs = .error f) :
    ∃ c ∈ cs, c.holds data = .error f := by
  induction cs with
  | nil => cases h
  | cons c rest ih =>
      rcases Except.bind_eq_error h with hc | ⟨holds, -, h⟩
      · exact ⟨c, List.mem_cons_self, hc⟩
      · rcases Except.bind_eq_error h with hrest | ⟨others, -, h⟩
        · obtain ⟨c', hc', hf⟩ := ih hrest
          exact ⟨c', List.mem_cons_of_mem _ hc', hf⟩
        · cases h

/-- An assertion that lists failures has evaluated all of its conditions. -/
theorem decided_of_failing {failed : List Condition} (h : failing data cs = .ok failed) :
    ∀ c ∈ cs, ∃ holds, c.holds data = .ok holds := by
  induction cs generalizing failed with
  | nil => exact fun c hc => absurd hc List.not_mem_nil
  | cons c rest ih =>
      obtain ⟨holds, hc, h⟩ := Except.bind_eq_ok h
      obtain ⟨others, hrest, -⟩ := Except.bind_eq_ok h
      exact List.forall_mem_cons.mpr ⟨⟨holds, hc⟩, ih hrest⟩

theorem guardHolds_eq_error (hconditions : Table.find? inputs "conditions" = some conditions)
    (h : guardHolds inputs = .error f) :
    ∃ data, Condition.listHolds data conditions = .error f := by
  rw [guardHolds, hconditions] at h
  exact ⟨_, h⟩

/-- A block that is given well-formed conditions fails only for a pattern in them, or because
another input is missing. -/
theorem badPattern_or_missing (hwell : Condition.WellFormed conditions) {block : Block}
    (hblock : block ∈ judging) (hconditions : Table.find? inputs "conditions" = some conditions)
    (h : (block.process calls inputs context).result = .error f) :
    Condition.BadPatternIn conditions f ∨
      ∃ name ∈ block.inputs.missing inputs, f = .missingInputs block.type [name] := by
  have hguard : guardHolds inputs = .error f → Condition.BadPatternIn conditions f := by
    intro hguard
    obtain ⟨data, hdata⟩ := guardHolds_eq_error hconditions hguard
    exact Condition.badPatternIn_of_listHolds hwell hdata
  simp only [judging, List.mem_cons, List.not_mem_nil, or_false] at hblock
  rcases hblock with rfl | rfl | rfl
  case inl =>
    -- An assertion insists on its data before it reads the conditions.
    obtain ⟨cs, hread, -⟩ := id hwell
    rw [process_assertion_eq hconditions, hread] at h
    rcases Except.bind_eq_error h with hdata | ⟨data, -, h⟩
    · obtain ⟨hnone, rfl⟩ := required_eq_error hdata
      exact .inr ⟨_, InputNames.mem_missing_iff.mpr ⟨List.mem_cons_self, hnone⟩, rfl⟩
    · replace h : failing data cs >>= _ = .error f := h
      rcases Except.bind_eq_error h with h | ⟨failed, -, h⟩
      · exact .inl (hwell.badPatternIn hread (failing_eq_error h))
      · cases h
  case inr.inl =>
    -- A loop insists on its target; without data its conditions are about `null`.
    rcases Except.bind_eq_error h with htarget | ⟨target, -, h⟩
    · obtain ⟨hnone, rfl⟩ := required_eq_error htarget
      exact .inr ⟨_, InputNames.mem_missing_iff.mpr ⟨List.mem_cons_self, hnone⟩, rfl⟩
    · rcases Except.bind_eq_error h with h | ⟨again, -, h⟩
      · exact .inl (hguard h)
      · cases h
  case inr.inr =>
    rcases Except.bind_eq_error h with h | ⟨ends, -, h⟩
    · exact .inl (hguard h)
    · split at h <;> cases h

/-- An assertion evaluates every condition, so an answer shows that all of them can be used. -/
theorem wellFormed_of_process (hconditions : Table.find? inputs "conditions" = some conditions)
    {output : Record} (h : (assertion.process calls inputs context).result = .ok output) :
    Condition.WellFormed conditions := by
  rw [process_assertion_eq hconditions] at h
  obtain ⟨data, -, h⟩ := Except.bind_eq_ok h
  obtain ⟨cs, hread, h⟩ := Except.bind_eq_ok h
  obtain ⟨failed, hfailing, -⟩ := Except.bind_eq_ok h
  refine ⟨cs, hread, fun c hc => ?_⟩
  obtain ⟨holds, hholds⟩ := decided_of_failing hfailing c hc
  exact Condition.usable_of_holds hholds

end Blocks
end StepPipeline
