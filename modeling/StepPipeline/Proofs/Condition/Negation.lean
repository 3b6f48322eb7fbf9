import StepPipeline.Proofs.Condition.Checking

/-!
# Operators and their negations

Five operators have a negation, an operator that asks for the opposite (`Operator.negation?`). The
answer of one is the other's turned round (`Operator.holds_negation?`), and a fault of one is a
fault of the other for the same reason. `contains` and `notContains` are no such pair: an array
contains what one of its texts contains, but lacks all that is no item of it.

Main statement: `negations_oppose`.
-/

namespace StepPipeline

namespace Operator

def negation? : Operator → Option Operator
  | equals => some notEquals
  | fits => some notFits
  | isNull => some isNotNull
  | isDefined => some isUndefined
  | isEmpty => some isNotEmpty
  | _ => none

variable {op negation : Operator}

/-- What two operators come to on one value and one operand: opposite answers, or two faults of one
kind. Both lack their operand, or cannot read it as the pattern for a text. -/
inductive Opposite (op negation : Operator) (value operand : Option Json) :
    Except Fault Bool → Except Fault Bool → Prop
  | decided (holds : Bool) : Opposite op negation value operand (.ok holds) (.ok !holds)
  | missing : operand = none → op.needsOperand = true → negation.needsOperand = true →
      Opposite op negation value operand (.error (.missingOperand op.name))
        (.error (.missingOperand negation.name))
  | unreadable {text : String} {pattern : Json} {e : Pattern.Error} : value = some (.str text) →
      operand = some pattern → Pattern.read pattern.toText = .error e →
      Opposite op negation value operand (.error (.invalidPattern pattern.toText e.message))
        (.error (.invalidPattern pattern.toText e.message))

theorem decide_of_operand (op : Operator) (value : Option Json) (operand : Json) :
    decide op.name value (some operand) = op.holds value operand := by
  rw [decide, ofName, ofName?_name]
  rfl

/-- Without an operand the operators that need none look at `null`, which makes no difference to
them. -/
theorem decide_of_none (op : Operator) (value : Option Json) : decide op.name value none =
    if op.needsOperand then .error (.missingOperand op.name) else op.holds value .null := by
  rw [decide, ofName, ofName?_name]
  rfl

/-- What is no text does not fit, so `notFits` holds of it. -/
theorem matched_not (value : Option Json) (operand : Json) :
    matched value operand true not = (matched value operand false id).map not := by
  unfold matched
  split
  · cases Pattern.ofOperand operand <;> rfl
  · rfl

/-- The negated operator turns round the answer, and a fault of the pattern stays. -/
theorem holds_negation? (h : op.negation? = some negation) (value : Option Json) (operand : Json) :
    negation.holds value operand = (op.holds value operand).map not := by
  cases op with
  | fits =>
      obtain rfl := Option.some.inj h
      exact matched_not value operand
  | isDefined =>
      obtain rfl := Option.some.inj h
      cases value <;> rfl
  | equals | isNull | isEmpty =>
      obtain rfl := Option.some.inj h
      rfl
  | _ => cases h

theorem needsOperand_negation? (h : op.negation? = some negation) :
    negation.needsOperand = op.needsOperand := by
  cases op with
  | equals | fits | isNull | isDefined | isEmpty =>
      obtain rfl := Option.some.inj h
      rfl
  | _ => cases h

theorem exists_text_of_matched {value : Option Json} {operand : Json} {otherwise : Bool}
    {test : Bool → Bool} {f : Fault} (h : matched value operand otherwise test = .error f) :
    ∃ text, value = some (.str text) := by
  unfold matched at h
  split at h
  · exact ⟨_, rfl⟩
  · cases h

/-- A pattern is read only if there is a text to match. -/
theorem exists_text_of_holds {value : Option Json} {operand : Json} {f : Fault}
    (h : op.holds value operand = .error f) : ∃ text, value = some (.str text) := by
  cases op with
  | fits | notFits => exact exists_text_of_matched h
  | _ => cases h

/-- Once both have an operand, or need none, the two operators come to opposite results. -/
theorem opposite_holds (h : op.negation? = some negation) (value : Option Json) {operand : Json}
    {given : Option Json} (hgiven : op.needsOperand = true → given = some operand) :
    Opposite op negation value given (op.holds value operand) (negation.holds value operand) := by
  rw [holds_negation? h]
  cases hholds : op.holds value operand with
  | ok holds => exact .decided holds
  | error f =>
      obtain ⟨text, rfl⟩ := exists_text_of_holds hholds
      obtain ⟨hop, hpattern⟩ := holds_eq_error hholds
      obtain ⟨e, hread, rfl⟩ := Pattern.ofOperand_eq_error hpattern
      have hneeds : op.needsOperand = true := by rcases hop with rfl | rfl <;> rfl
      exact .unreadable rfl (hgiven hneeds) hread

/-- **One pair.** By the operand: with one both are evaluated, without one both lack it or neither
needs it. -/
theorem opposite_decide (h : op.negation? = some negation) (value operand : Option Json) :
    Opposite op negation value operand (decide op.name value operand)
      (decide negation.name value operand) := by
  cases operand with
  | some operand =>
      rw [decide_of_operand, decide_of_operand]
      exact opposite_holds h value fun _ => rfl
  | none =>
      rw [decide_of_none, decide_of_none, needsOperand_negation? h]
      split
      · next hneeds =>
        exact .missing rfl hneeds ((needsOperand_negation? h).trans hneeds)
      · next hneeds => exact opposite_holds h value fun hop => absurd hop hneeds

end Operator

/-! ## Containing and lacking -/

namespace Json

variable {v operand item : Json}

/-- An item counts by equality, and a text in it by what it contains as well. -/
theorem elementContains_iff : elementContains operand item = true ↔ item.equal operand = true ∨
    ∃ text needle, item = .str text ∧ operand = .str needle ∧ Text.contains text needle = true := by
  unfold elementContains
  rw [Bool.or_eq_true]
  refine or_congr_right ?_
  split
  · simp
  · next hnot =>
    refine iff_of_false nofun ?_
    rintro ⟨text, needle, hitem, hoperand, -⟩
    exact hnot text needle hitem hoperand

/-- What is no text and no array contains nothing. -/
theorem contains_or_lacks (v operand : Json) :
    v.contains operand = true ∨ v.lacks operand = true := by
  cases v with
  | str s =>
      rw [contains, lacks, Bool.not_eq_true']
      exact Bool.eq_false_or_eq_true _
  | arr items =>
      rw [contains, lacks, Bool.not_eq_true']
      cases hequal : items.any fun item => item.equal operand with
      | false => exact .inr rfl
      | true =>
          obtain ⟨item, hmem, heq⟩ := List.any_eq_true.mp hequal
          exact .inl (List.any_eq_true.mpr ⟨item, hmem, elementContains_iff.mpr (.inl heq)⟩)
  | _ => exact .inr rfl

/-- An array alone can contain and lack the same thing: a text that no item of it equals, and that
one of its texts contains. -/
theorem contains_and_lacks_iff : v.contains operand = true ∧ v.lacks operand = true ↔
    ∃ items, v = .arr items ∧ (∀ item ∈ items, item.equal operand = false) ∧
      ∃ text needle, .str text ∈ items ∧ operand = .str needle ∧
        Text.contains text needle = true := by
  constructor
  · rintro ⟨hcontains, hlacks⟩
    -- In a text the two answers are opposite, and any other value contains nothing.
    cases v with
    | str s =>
        rw [lacks, Bool.not_eq_true'] at hlacks
        exact absurd (hcontains.symm.trans hlacks) nofun
    | arr items =>
        rw [lacks, Bool.not_eq_true', List.any_eq_false] at hlacks
        obtain ⟨item, hmem, hitem⟩ := List.any_eq_true.mp hcontains
        rcases elementContains_iff.mp hitem with hequal | ⟨text, needle, rfl, hoperand, htext⟩
        · exact absurd hequal (hlacks item hmem)
        · exact ⟨items, rfl, fun item hitem => Bool.eq_false_iff.mpr (hlacks item hitem), text,
            needle, hmem, hoperand, htext⟩
    | _ => cases hcontains
  · rintro ⟨items, rfl, hequal, text, needle, hmem, hoperand, htext⟩
    rw [contains, lacks, Bool.not_eq_true', List.any_eq_false, List.any_eq_true]
    exact ⟨⟨_, hmem, elementContains_iff.mpr (.inr ⟨text, needle, rfl, hoperand, htext⟩)⟩,
      fun item hitem => Bool.eq_false_iff.mp (hequal item hitem)⟩

end Json

namespace Operator

/-- **Negated operators are negations, but for one.** An operator and its negation give opposite
answers on every value or none and every operand or none, or both fail with the same kind of fault.
Of `contains` and `notContains` at least one holds. Both do exactly if the value is an array, the
operand is a text that equals no item of it, and one of its texts contains the operand. -/
theorem negations_oppose (value : Option Json) :
    (∀ op negation operand, op.negation? = some negation →
      Opposite op negation value operand (decide op.name value operand)
        (decide negation.name value operand)) ∧
    ∀ operand, ∃ holds lacks, decide contains.name value (some operand) = .ok holds ∧
      decide notContains.name value (some operand) = .ok lacks ∧
      (holds = true ∨ lacks = true) ∧
      (holds = true ∧ lacks = true ↔ ∃ items, value = some (.arr items) ∧
        (∀ item ∈ items, decide equals.name (some item) (some operand) = .ok false) ∧
        ∃ text needle front rest, .str text ∈ items ∧ operand = .str needle ∧
          text.toList = front ++ needle.toList ++ rest) := by
  refine ⟨fun op negation operand h => opposite_decide h value operand, fun operand => ?_⟩
  rw [decide_of_operand, decide_of_operand]
  cases value with
  | none => exact ⟨false, true, rfl, rfl, .inr rfl, iff_of_false nofun nofun⟩
  | some v =>
      refine ⟨v.contains operand, v.lacks operand, rfl, rfl, v.contains_or_lacks operand, ?_⟩
      rw [Json.contains_and_lacks_iff]
      simp only [Option.some.injEq, decide_of_operand, holds, Option.any_some, Except.ok.injEq,
        Text.contains, Text.occursIn_iff, exists_and_left]

/-- An array that contains `admin` in one of its texts and lacks it as an item. It is no text, so a
pattern that cannot be read does no harm. -/
theorem administrator_opposes :
    fits.negation? = some notFits ∧
    Opposite fits notFits (some (.arr [.str "administrator"])) (some (.str "(")) (.ok false)
      (.ok true) ∧
    decide "contains" (some (.arr [.str "administrator"])) (some (.str "admin")) = .ok true ∧
    decide "notContains" (some (.arr [.str "administrator"])) (some (.str "admin")) = .ok true := by
  obtain ⟨hopposite, hcontains⟩ := negations_oppose (some (.arr [.str "administrator"]))
  obtain ⟨holds, lacks, hholds, hlacks, -, hboth⟩ := hcontains (.str "admin")
  have hunequal : ∀ item ∈ [Json.str "administrator"],
      decide equals.name (some item) (some (.str "admin")) = .ok false := by
    intro item hitem
    obtain rfl := List.mem_singleton.mp hitem
    rfl
  obtain ⟨rfl, rfl⟩ := hboth.mpr ⟨_, rfl, hunequal, "administrator", "admin", [],
    "istrator".toList, List.mem_singleton.mpr rfl, rfl, rfl⟩
  exact ⟨rfl, hopposite fits notFits (some (.str "(")) rfl, hholds, hlacks⟩

end Operator
end StepPipeline
