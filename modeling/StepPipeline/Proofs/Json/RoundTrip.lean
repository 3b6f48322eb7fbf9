import StepPipeline.Proofs.Json.Compact
import StepPipeline.Proofs.Json.Reading
import StepPipeline.Proofs.Store.Names

/-!
# Compact texts are read back

A value is read back from its compact text (`Json.parse?_compact`), provided that its numbers are
integers of 64 bits, that its records are in order, and that no more arrays and objects stand in
one another than a text may nest. The induction is on the value: the reader takes the text of a
part from the front of the text, whatever stands behind it, as long as that is nothing that would
still belong to a number (`EndsNumber`).
-/

namespace StepPipeline

/-! ## Digits -/

namespace Decimal

theorem ofDigits_toDigits (n : Nat) : ofDigits (Nat.toDigits 10 n) = n :=
  Nat.ofDigitChars_ten_toDigits

/-- No zero leads the digits of a number. -/
theorem head?_toDigits {n : Nat} (h : 0 < n) : (Nat.toDigits 10 n).head? ≠ some '0' := by
  induction n using Nat.strongRecOn with
  | ind n ih =>
    -- All digits but the last are those of a tenth of the number.
    by_cases hlt : n < 10
    · have hall : ∀ k < 10, 0 < k → (Nat.toDigits 10 k).head? ≠ some '0' := by decide
      exact hall n hlt h
    · rw [Nat.toDigits_of_base_le (by decide) (by omega), List.head?_append,
        Option.or_of_isSome (List.isSome_head?.mpr Nat.toDigits_ne_nil)]
      exact ih (n / 10) (by omega) (by omega)

theorem exists_cons_toDigits (n : Nat) :
    ∃ c cs, Nat.toDigits 10 n = c :: cs ∧ c.isDigit = true := by
  obtain ⟨c, cs, hds⟩ := List.exists_cons_of_ne_nil (Nat.toDigits_ne_nil (b := 10) (n := n))
  refine ⟨c, cs, hds, isDigit_of_mem_toDigits (n := n) ?_⟩
  rw [hds]
  exact List.mem_cons_self

end Decimal

namespace Written

/-! ## Integers -/

/-- The text behind a number: nothing that would still belong to it. -/
def EndsNumber (rest : List Char) : Prop :=
  ∀ c ∈ rest.head?, c.isDigit = false ∧ c ≠ '.' ∧ c ≠ 'e' ∧ c ≠ 'E'

theorem endsNumber_cons {c : Char} (h : c.isDigit = false ∧ c ≠ '.' ∧ c ≠ 'e' ∧ c ≠ 'E')
    (rest : List Char) : EndsNumber (c :: rest) := by
  rintro _ ⟨⟩
  exact h

theorem isWhole_toDigits (n : Nat) : isWhole (Nat.toDigits 10 n) = true := by
  rcases Nat.eq_zero_or_pos n with rfl | hpos
  · decide
  · have hne : (Nat.toDigits 10 n).isEmpty = false := by
      rw [List.isEmpty_eq_false_iff]
      exact Nat.toDigits_ne_nil
    have hhead := bne_iff_ne.mpr (Decimal.head?_toDigits hpos)
    rw [isWhole, hne, hhead, Bool.or_true]
    rfl

/-- The digits of a number are taken to their end and no further. -/
theorem digits_append {ds rest : List Char} (hds : ∀ c ∈ ds, c.isDigit = true)
    (hrest : EndsNumber rest) : digits (ds ++ rest) = ds ∧ afterDigits (ds ++ rest) = rest := by
  have hstop : digits rest = [] ∧ afterDigits rest = rest := by
    cases rest with
    | nil => exact ⟨rfl, rfl⟩
    | cons c rest =>
      have hc : c.isDigit = false := (hrest c rfl).1
      simp [digits, afterDigits, hc]
  rw [digits, afterDigits, List.takeWhile_append_of_pos hds, List.dropWhile_append_of_pos hds]
  rw [digits, afterDigits] at hstop
  rw [hstop.1, hstop.2, List.append_nil]
  exact ⟨rfl, rfl⟩

theorem fraction?_of_ends {rest : List Char} (h : EndsNumber rest) :
    fraction? rest = some ([], rest) := by
  cases rest with
  | nil => rfl
  | cons c rest =>
    have hc := (h c rfl).2.1
    simp [fraction?, hc]

theorem exponent?_of_ends {rest : List Char} (h : EndsNumber rest) :
    exponent? rest = some (none, rest) := by
  cases rest with
  | nil => rfl
  | cons c rest =>
    have hc := (h c rfl).2.2
    simp [exponent?, hc]

/-- The sign is taken off, and no other sign is left. -/
theorem minus_int (n : Int) (rest : List Char) : minus ((Number.int n).text ++ rest) =
    (decide (n < 0), Nat.toDigits 10 n.natAbs ++ rest) := by
  rw [Number.text]
  split
  · next h => rw [decide_eq_true h]; rfl
  · next h =>
    rw [decide_eq_false h, List.nil_append]
    obtain ⟨c, cs, hds, hc⟩ := Decimal.exists_cons_toDigits n.natAbs
    have hne : c ≠ '-' := by
      rintro rfl
      cases hc
    simp [hds, minus, hne]

/-- The integer fits 64 bits, with a sign or without one. -/
def IsWord (n : Int) : Prop := -UInt64.size ≤ 2 * n ∧ n < UInt64.size

instance (n : Int) : Decidable (IsWord n) := inferInstanceAs (Decidable (_ ∧ _))

theorem ofLiteral_int {n : Int} (h : IsWord n) :
    Number.ofLiteral ⟨decide (n < 0), Nat.toDigits 10 n.natAbs, [], 0⟩ true = some (.int n) := by
  rw [Number.ofLiteral]
  simp only [Decimal.ofDigits_toDigits]
  -- The bound on negative literals is half of that on the others.
  by_cases hn : n < 0
  · have hsize : 0 < n.natAbs ∧ 2 * n.natAbs ≤ UInt64.size := by
      have hlow := h.1
      omega
    have hvalue : -(n.natAbs : Int) = n := by omega
    simp only [hn, hsize, decide_true, Bool.and_self, if_true, hvalue]
  · have hsize : n.natAbs < UInt64.size := by
      have hhigh := h.2
      omega
    have hvalue : (n.natAbs : Int) = n := by omega
    simp only [hn, hsize, decide_true, decide_false, Bool.true_and, Bool.false_eq_true, if_true,
      if_false, hvalue]

theorem number?_int {n : Int} (h : IsWord n) {rest : List Char} (hrest : EndsNumber rest) :
    (number? ((Number.int n).text ++ rest)).map (·.1) = some (.num (some (.int n)), rest) := by
  have hall : ∀ c ∈ Nat.toDigits 10 n.natAbs, c.isDigit = true :=
    fun _ hc => Decimal.isDigit_of_mem_toDigits hc
  obtain ⟨hdigits, hafter⟩ := digits_append hall hrest
  rw [map_number?, minus_int]
  dsimp only
  rw [hdigits, hafter, isWhole_toDigits, if_pos rfl, fraction?_of_ends hrest, Option.bind_some,
    exponent?_of_ends hrest, Option.map_some]
  exact congrArg (fun value => some (num value, rest)) (ofLiteral_int h)

theorem exists_head_int (n : Int) :
    ∃ c cs, (Number.int n).text = c :: cs ∧ (c.isDigit = true ∨ c = '-') := by
  rw [Number.text]
  split
  · exact ⟨'-', _, rfl, .inr rfl⟩
  · obtain ⟨c, cs, hds, hc⟩ := Decimal.exists_cons_toDigits n.natAbs
    exact ⟨c, cs, hds, .inl hc⟩

/-- An integer is read from the front of a text, up to what ends it. -/
theorem front?_int {n : Int} (h : IsWord n) {rest : List Char} (hrest : EndsNumber rest) :
    front? ((Number.int n).text ++ rest) = some (.num (some (.int n)), rest) := by
  have hnumber := number?_int h hrest
  obtain ⟨c, cs, htext, hc⟩ := exists_head_int n
  have hne : ∀ m : Char, m.isDigit = false → m ≠ '-' → c ≠ m := by
    rintro m hdigit hminus rfl
    rcases hc with hc | hc
    · rw [hdigit] at hc
      cases hc
    · exact hminus hc
  rw [htext, List.cons_append] at hnumber ⊢
  rw [front?_scalar, scalarFront?, if_neg (hne 'n' rfl (by decide)),
    if_neg (hne 't' rfl (by decide)), if_neg (hne 'f' rfl (by decide)), hnumber]
  refine ⟨?_, hne '[' rfl (by decide), hne '\x7b' rfl (by decide), hne '"' rfl (by decide)⟩
  simp [isSpace, hne ' ' rfl (by decide), hne '\n' rfl (by decide), hne '\t' rfl (by decide),
    hne '\r' rfl (by decide)]

/-! ## Strings -/

theorem hexNumber?_low {n : Nat} (h : n < 32) :
    hexNumber? ['0', '0', Json.hexDigit (n / 16), Json.hexDigit n] = some n := by
  have hall : ∀ k < 32,
      hexNumber? ['0', '0', Json.hexDigit (k / 16), Json.hexDigit k] = some k := by decide
  exact hall n h

theorem units?_escape {e x : Char} (he : e ≠ 'u') (h : escaped? e = some x) (rest : List Char)
    (acc : List Unit16) : units? ('\\' :: e :: rest) acc = units? rest (.char x :: acc) := by
  rw [units?.eq_def]
  simp [he, h]

/-- The unit that a character is read from, and that it is joined to this character again. -/
theorem exists_unit (c : Char) : ∃ u,
    (∀ rest acc, units? (Json.escapeChar c ++ rest) acc = units? rest (u :: acc)) ∧
      ∀ us, join? (u :: us) = (join? us).map (c :: ·) := by
  have hchar : ∀ us, join? (.char c :: us) = (join? us).map (c :: ·) := fun us => by rw [join?]
  have hescape : ∀ e, e ≠ 'u' → escaped? e = some c → ∀ rest acc,
      units? (['\\', e] ++ rest) acc = units? rest (.char c :: acc) :=
    fun e he hc rest acc => units?_escape he hc rest acc
  unfold Json.escapeChar
  split
  · next h => exact ⟨_, hescape '"' (by decide) (by rw [h]; rfl), hchar⟩
  split
  · next h => exact ⟨_, hescape '\\' (by decide) (by rw [h]; rfl), hchar⟩
  split
  · next h => exact ⟨_, hescape 'n' (by decide) (by rw [h]; rfl), hchar⟩
  split
  · next h => exact ⟨_, hescape 'r' (by decide) (by rw [h]; rfl), hchar⟩
  split
  · next h => exact ⟨_, hescape 't' (by decide) (by rw [h]; rfl), hchar⟩
  split
  · next h => exact ⟨_, hescape 'b' (by decide) (by rw [← Char.ofNat_toNat c, h]; rfl), hchar⟩
  split
  · next h => exact ⟨_, hescape 'f' (by decide) (by rw [← Char.ofNat_toNat c, h]; rfl), hchar⟩
  split
  · next h =>
    -- The other control characters are written by their codes.
    refine ⟨.code c.toNat, fun rest acc => ?_, fun us => ?_⟩
    · rw [units?.eq_def]
      simp [hexNumber?_low h]
    · rw [join?.eq_def]
      dsimp only
      rw [if_neg (by omega), if_neg (by omega), Char.ofNat_toNat]
  · next hquote hback _ _ _ _ _ hlow =>
    refine ⟨.char c, fun rest acc => ?_, hchar⟩
    rw [List.singleton_append, units?.eq_def]
    dsimp only
    rw [if_neg hquote, if_neg hback, if_neg hlow]

/-- Escaped characters are read up to the closing quote and joined to the text that they were. -/
theorem exists_units (cs : List Char) : ∃ us, join? us = some cs ∧ ∀ rest acc,
    units? (cs.flatMap Json.escapeChar ++ '"' :: rest) acc = some (acc.reverse ++ us, rest) := by
  induction cs with
  | nil =>
      refine ⟨[], by rw [join?], fun rest acc => ?_⟩
      rw [List.append_nil, List.flatMap_nil, List.nil_append, units?.eq_def]
      rfl
  | cons c cs ih =>
      obtain ⟨u, hread, hjoin⟩ := exists_unit c
      obtain ⟨us, hus, hrest⟩ := ih
      refine ⟨u :: us, ?_, fun rest acc => ?_⟩
      · rw [hjoin, hus]
        rfl
      · rw [List.flatMap_cons, List.append_assoc, hread, hrest, List.reverse_cons,
          List.append_assoc, List.singleton_append]

/-- A quoted text is read back, whatever stands behind it. -/
theorem stringFront?_quote (s : String) (rest : List Char) :
    stringFront? (s.toList.flatMap Json.escapeChar ++ '"' :: rest) = some (some s, rest) := by
  obtain ⟨us, hjoin, hunits⟩ := exists_units s.toList
  rw [stringFront?, hunits, Option.map_some, List.reverse_nil, List.nil_append, hjoin,
    Option.map_some, String.ofList_toList]

end Written

/-! ## Values -/

/-- The values that their texts determine: all numbers are integers of 64 bits, records are in
order, and no more than `depth` arrays and objects stand in one another. -/
inductive Json.Readable : Nat → Json → Prop where
  | null {depth} : Readable depth .null
  | bool {depth b} : Readable depth (.bool b)
  | int {depth n} : Written.IsWord n → Readable depth (.num (.int n))
  | str {depth s} : Readable depth (.str s)
  | arr {depth items} : (∀ v ∈ items, Readable depth v) → Readable (depth + 1) (.arr items)
  | obj {depth fields} : Table.Sorted fields → (∀ e ∈ fields, Readable depth e.2) →
      Readable (depth + 1) (.obj fields)

namespace Written

def ofJson : Json → Written
  | .null => .null
  | .bool b => .bool b
  | .num n => .num (some n)
  | .str s => .str (some s)
  | .arr items => .arr (items.map fun v => ofJson v)
  | .obj fields => .obj (fields.map fun e => (some e.1, ofJson e.2))
termination_by v => sizeOf v
decreasing_by
  all_goals simp_wf
  · have := List.sizeOf_lt_of_mem ‹_›; omega
  · have := Json.sizeOf_lt_of_mem ‹_›; omega

/-- The tree of the value denotes the value, and is what is read from its text. -/
structure ReadBack (depth : Nat) (v : Json) : Prop where
  denotes : (ofJson v).value? depth = some v
  front : ∀ rest, EndsNumber rest → front? (v.compact.toList ++ rest) = some (ofJson v, rest)

/-! ## Items and fields -/

variable {depth : Nat}

/-- The items of an array denote what they were made of, one by one. -/
theorem values?_of_readBack {items : List Json} (h : ∀ v ∈ items, ReadBack depth v)
    (acc : List Json) :
    values? (items.map ofJson) depth acc = some (acc.reverse ++ items) := by
  induction items generalizing acc with
  | nil => simp [values?]
  | cons v items ih =>
      obtain ⟨hv, hitems⟩ := List.forall_mem_cons.mp h
      rw [List.map_cons, values?, hv.denotes]
      dsimp only
      rw [ih hitems, List.reverse_cons, List.append_assoc, List.singleton_append]

/-- The items of an array are read one by one, up to the bracket. -/
theorem itemsFront?_of_readBack {v : Json} {items : List Json}
    (h : ∀ u ∈ v :: items, ReadBack depth u) (rest : List Char) (acc : List Written) :
    itemsFront? ([','].intercalate ((v :: items).map fun u => u.compact.toList) ++ ']' :: rest)
      acc = some (.arr (acc.reverse ++ (v :: items).map ofJson), rest) := by
  induction items generalizing v acc with
  | nil =>
      have hv := h v List.mem_cons_self
      rw [List.map_singleton, List.intercalate_singleton, itemsFront?_eq,
        hv.front _ (endsNumber_cons (by decide) rest), Option.bind_some, skip_cons (by decide)]
      simp
  | cons u items ih =>
      obtain ⟨hv, hitems⟩ := List.forall_mem_cons.mp h
      have hfront := ih hitems
      rw [List.map_cons] at hfront
      rw [List.map_cons, List.map_cons, List.intercalate_cons_cons, List.append_assoc,
        List.append_assoc, itemsFront?_eq, List.singleton_append,
        hv.front _ (endsNumber_cons (by decide) _), Option.bind_some, skip_cons (by decide)]
      dsimp only
      rw [if_pos rfl, hfront, List.reverse_cons, List.append_assoc, List.singleton_append]
      rfl

/-- The fields of an object denote what they were made of, one by one. -/
theorem entries?_of_readBack {fields : List (String × Json)}
    (h : ∀ e ∈ fields, ReadBack depth e.2) (acc : List (String × Json)) :
    entries? (fields.map fun e => (some e.1, ofJson e.2)) depth acc =
      some (acc.reverse ++ fields) := by
  induction fields generalizing acc with
  | nil => simp [entries?]
  | cons e fields ih =>
      obtain ⟨he, hfields⟩ := List.forall_mem_cons.mp h
      simp only [List.map_cons, entries?, he.denotes]
      rw [ih hfields, List.reverse_cons, List.append_assoc, List.singleton_append]

def fieldText (e : String × Json) : List Char := (Json.quote e.1 ++ ":" ++ e.2.compact).toList

theorem fieldText_eq :
    fieldText = fun e => (Json.quote e.1).toList ++ ':' :: e.2.compact.toList := by
  funext e
  simp [fieldText]

/-- One turn of the reader of fields, at a field that something follows. -/
theorem fieldsFront?_of_text {e : String × Json} (he : ReadBack depth e.2) {c : Char}
    (hc : isSpace c = false ∧ c.isDigit = false ∧ c ≠ '.' ∧ c ≠ 'e' ∧ c ≠ 'E') (rest : List Char)
    (acc : List (Option String × Written)) :
    fieldsFront? (fieldText e ++ c :: rest) acc =
      if c = ',' then fieldsFront? rest ((some e.1, ofJson e.2) :: acc)
      else if c = '\x7d' then some (.obj ((some e.1, ofJson e.2) :: acc).reverse, rest)
      else none := by
  have htext : fieldText e ++ c :: rest = '"' :: (e.1.toList.flatMap Json.escapeChar ++
      '"' :: ':' :: (e.2.compact.toList ++ c :: rest)) := by
    simp [fieldText, Json.quote]
  rw [htext, fieldsFront?_eq, skip_cons (by decide)]
  have hcolon : ∀ tail, skip (':' :: tail) = ':' :: tail := skip_cons (by decide)
  have hvalue := he.front _ (endsNumber_cons hc.2 rest)
  simp only [stringFront?_quote, hcolon, hvalue, skip_cons hc.1, Option.bind_some]

/-- The fields of an object are read one by one, up to the brace. -/
theorem fieldsFront?_of_readBack {e : String × Json} {fields : List (String × Json)}
    (h : ∀ f ∈ e :: fields, ReadBack depth f.2) (rest : List Char)
    (acc : List (Option String × Written)) :
    fieldsFront? ([','].intercalate ((e :: fields).map fieldText) ++ '\x7d' :: rest) acc =
      some (.obj (acc.reverse ++ (e :: fields).map fun e => (some e.1, ofJson e.2)), rest) := by
  induction fields generalizing e acc with
  | nil =>
      rw [List.map_singleton, List.intercalate_singleton,
        fieldsFront?_of_text (h e List.mem_cons_self) (by decide)]
      simp
  | cons f fields ih =>
      obtain ⟨he, hfields⟩ := List.forall_mem_cons.mp h
      have hfront := ih hfields
      rw [List.map_cons] at hfront
      rw [List.map_cons, List.map_cons, List.intercalate_cons_cons, List.append_assoc,
        List.append_assoc, List.singleton_append, fieldsFront?_of_text he (by decide),
        if_pos rfl, hfront, List.reverse_cons, List.append_assoc, List.singleton_append]
      rfl

/-! ## All values -/

theorem front?_arr {cs : List Char} {p : Written × List Char} (h : itemsFront? cs [] = some p) :
    front? ('[' :: cs) = some p := by
  rw [front?_of_skip (skip_cons (by decide) cs), if_pos rfl]
  split
  · next hend =>
    -- No item would have been read in front of a bracket.
    rw [itemsFront?_eq, front?_of_skip_close hend] at h
    cases h
  · exact h

theorem front?_obj {cs : List Char} {p : Written × List Char} (h : fieldsFront? cs [] = some p) :
    front? ('\x7b' :: cs) = some p := by
  rw [front?_of_skip (skip_cons (by decide) cs), if_neg (by decide), if_pos rfl]
  split
  · next hend =>
    -- No name would have been read in front of a brace.
    rw [fieldsFront?_eq, hend] at h
    cases h
  · exact h

theorem compact_arr_append (items : List Json) (rest : List Char) :
    (Json.arr items).compact.toList ++ rest =
      '[' :: ([','].intercalate (items.map fun v => v.compact.toList) ++ ']' :: rest) := by
  rw [Json.compact]
  simp [String.toList_intercalate, Function.comp_def]

theorem compact_obj_append (fields : List (String × Json)) (rest : List Char) :
    (Json.obj fields).compact.toList ++ rest =
      '\x7b' :: ([','].intercalate (fields.map fieldText) ++ '\x7d' :: rest) := by
  rw [Json.compact]
  simp [String.toList_intercalate, Function.comp_def, fieldText_eq]

theorem readBack_null : ReadBack depth .null := by
  refine ⟨by rw [ofJson, value?], fun rest _ => ?_⟩
  rw [Json.compact, ofJson]
  show front? ('n' :: ('u' :: 'l' :: 'l' :: rest)) = _
  rw [front?_scalar (by decide)]
  exact word?_append ['n', 'u', 'l', 'l'] (List.cons_ne_nil _ _) .null rest

theorem readBack_bool (b : Bool) : ReadBack depth (.bool b) := by
  refine ⟨by rw [ofJson, value?], fun rest _ => ?_⟩
  rw [Json.compact, ofJson]
  cases b with
  | true =>
      show front? ('t' :: ('r' :: 'u' :: 'e' :: rest)) = _
      rw [front?_scalar (by decide)]
      exact word?_append ['t', 'r', 'u', 'e'] (List.cons_ne_nil _ _) (.bool true) rest
  | false =>
      show front? ('f' :: ('a' :: 'l' :: 's' :: 'e' :: rest)) = _
      rw [front?_scalar (by decide)]
      exact word?_append ['f', 'a', 'l', 's', 'e'] (List.cons_ne_nil _ _) (.bool false) rest

theorem readBack_int {n : Int} (h : IsWord n) : ReadBack depth (.num (.int n)) := by
  refine ⟨by rw [ofJson, value?, Option.map_some], fun rest hrest => ?_⟩
  rw [Json.compact, String.toList_ofList, ofJson]
  exact front?_int h hrest

theorem readBack_str (s : String) : ReadBack depth (.str s) := by
  refine ⟨by rw [ofJson, value?, Option.map_some], fun rest _ => ?_⟩
  have htext : (Json.str s).compact.toList ++ rest =
      '"' :: (s.toList.flatMap Json.escapeChar ++ '"' :: rest) := by
    simp [Json.compact, Json.quote]
  rw [htext, front?_of_skip (skip_cons (by decide) _), if_neg (by decide), if_neg (by decide),
    if_pos rfl, stringFront?_quote, ofJson]
  rfl

/-- An array is read back one level further down than its items. -/
theorem readBack_arr {items : List Json} (h : ∀ v ∈ items, ReadBack depth v) :
    ReadBack (depth + 1) (.arr items) := by
  refine ⟨?_, fun rest _ => ?_⟩
  · rw [ofJson, value?, values?_of_readBack h]
    rfl
  · rw [compact_arr_append, ofJson]
    cases items with
    | nil =>
        rw [front?_of_skip (skip_cons (by decide) _), if_pos rfl, List.map_nil,
          List.intercalate_nil, List.nil_append, skip_cons (by decide)]
        rfl
    | cons v items => exact front?_arr (itemsFront?_of_readBack h rest [])

theorem readBack_obj {fields : List (String × Json)} (hsorted : Table.Sorted fields)
    (h : ∀ e ∈ fields, ReadBack depth e.2) : ReadBack (depth + 1) (.obj fields) := by
  refine ⟨?_, fun rest _ => ?_⟩
  · rw [ofJson, value?, entries?_of_readBack h]
    -- Fields in order are the table that is made of them.
    exact congrArg (fun t => some (Json.obj t)) (Table.ofList_of_sorted hsorted)
  · rw [compact_obj_append, ofJson]
    cases fields with
    | nil =>
        rw [front?_of_skip (skip_cons (by decide) _), if_neg (by decide), if_pos rfl,
          List.map_nil, List.intercalate_nil, List.nil_append, skip_cons (by decide)]
        rfl
    | cons e fields => exact front?_obj (fieldsFront?_of_readBack h rest [])

/-- The induction on the value, with a case for each kind of it. -/
theorem readBack_of_readable {v : Json} (h : v.Readable depth) : ReadBack depth v := by
  induction h with
  | null => exact readBack_null
  | bool => exact readBack_bool _
  | int h => exact readBack_int h
  | str => exact readBack_str _
  | arr _ ih => exact readBack_arr ih
  | obj hsorted _ ih => exact readBack_obj hsorted ih

theorem read_compact {v : Json} (h : v.Readable maxDepth) : read v.compact = some (ofJson v) := by
  have hfront := (readBack_of_readable h).front [] nofun
  rw [List.append_nil] at hfront
  rw [read_eq, hfront]
  rfl

end Written

/-- A value is read back from its compact text. -/
theorem Json.parse?_compact {v : Json} (h : v.Readable Written.maxDepth) :
    Json.parse? v.compact = some v := by
  rw [parse?, Written.read_compact h]
  exact (Written.readBack_of_readable h).denotes

end StepPipeline
