import StepPipeline.Json.Written

/-!
# The reader of JSON texts, equation by equation

The reader returns with every result that less of the text is left, and carries a bound along with
the items of an array and the fields of an object. Without both it is three functions that call one
another (`front?`, `itemsFront?`, `fieldsFront?`), and what a reader does with a text follows from
their equations. The bound makes no difference (`map_itemsAt?`, `map_fieldsAt?`).
-/

namespace StepPipeline
namespace Written

variable {cs rest : List Char}

/-! ## The reader without bounds -/

/-- The value at the front of a text, after blanks, and what is left of the text. -/
def front? (cs : List Char) : Option (Written × List Char) := (valueAt? cs).map (·.1)

/-- The array whose first items are in `acc` and whose others stand at the front of a text. -/
def itemsFront? (cs : List Char) (acc : List Written) : Option (Written × List Char) :=
  (itemsAt? (cs.length + 1) cs (Nat.lt_succ_self _) acc).map (·.1)

/-- The object whose first fields are in `acc` and whose others stand at the front of a text. -/
def fieldsFront? (cs : List Char) (acc : List (Option String × Written)) :
    Option (Written × List Char) :=
  (fieldsAt? (cs.length + 1) cs (Nat.lt_succ_self _) acc).map (·.1)

/-- The bound only has to be large enough. -/
theorem map_itemsAt? {m n : Nat} (hm : cs.length < m) (hn : cs.length < n) (acc : List Written) :
    (itemsAt? m cs hm acc).map (·.1) = (itemsAt? n cs hn acc).map (·.1) := by
  -- On the length of the text; each value that is read makes it shorter.
  induction hlen : cs.length using Nat.strongRecOn generalizing cs acc with
  | ind len ih =>
    subst hlen
    rw [itemsAt?, itemsAt?]
    split
    · rfl
    · next v rest hlt hval =>
      split
      · rfl
      · next c rest' hs =>
        have hshort : rest'.length < cs.length := Nat.lt_trans (length_of_skip hs) hlt
        split
        · exact ih _ hshort _ _ _ rfl
        · split <;> rfl

/-- The bound only has to be large enough. -/
theorem map_fieldsAt? {m n : Nat} (hm : cs.length < m) (hn : cs.length < n)
    (acc : List (Option String × Written)) :
    (fieldsAt? m cs hm acc).map (·.1) = (fieldsAt? n cs hn acc).map (·.1) := by
  induction hlen : cs.length using Nat.strongRecOn generalizing cs acc with
  | ind len ih =>
    subst hlen
    rw [fieldsAt?, fieldsAt?]
    split
    · next afterQuote hq =>
      split
      · rfl
      · next key afterKey hk hstring =>
        split
        · next afterColon hc =>
          split
          · rfl
          · next v rest hlt hval =>
            split
            · rfl
            · next c rest' hs =>
              -- Quotes, colon and value are gone from the text.
              have hshort : rest'.length < cs.length := by
                have h1 := length_of_skip hs
                have h2 := length_of_skip hc
                have h3 := length_of_skip hq
                dsimp only at hlt hk
                omega
              split
              · exact ih _ hshort _ _ _ rfl
              · split <;> rfl
        · rfl
    · rfl

def stringFront? (cs : List Char) : Option (Option String × List Char) :=
  (units? cs []).map fun p => ((join? p.1).map String.ofList, p.2)

def scalarFront? : List Char → Option (Written × List Char)
  | [] => none
  | c :: rest =>
    (if c = 'n' then word? ['n', 'u', 'l', 'l'] (List.cons_ne_nil _ _) .null (c :: rest)
      else if c = 't' then word? ['t', 'r', 'u', 'e'] (List.cons_ne_nil _ _) (.bool true) (c :: rest)
      else if c = 'f' then word? ['f', 'a', 'l', 's', 'e'] (List.cons_ne_nil _ _) (.bool false) (c :: rest)
      else number? (c :: rest)).map (·.1)

theorem map_string? (cs : List Char) : (string? cs).map (·.1) = stringFront? cs := by
  unfold string? stringFront?
  split
  · next h => simp only [h, Option.map_some]
  · next h => simp only [h, Option.map_none]

/-! ## Equations -/

theorem front?_of_skip_nil (h : skip cs = []) : front? cs = none := by
  rw [front?, valueAt?]
  split
  · rfl
  · next hs => rw [h] at hs; cases hs

/-- The first character that is not blank decides what is read. -/
theorem front?_of_skip {c : Char} (h : skip cs = c :: rest) : front? cs =
    if c = '[' then
      match skip rest with
      | ']' :: tail => some (.arr [], tail)
      | _ => itemsFront? rest []
    else if c = '\x7b' then
      match skip rest with
      | '\x7d' :: tail => some (.obj [], tail)
      | _ => fieldsFront? rest []
    else if c = '"' then (stringFront? rest).map fun p => (.str p.1, p.2)
    else scalarFront? (c :: rest) := by
  rw [front?, valueAt?]
  split
  · next hs => rw [h] at hs; cases hs
  · next c' rest' hs =>
    obtain ⟨rfl, rfl⟩ := List.cons.inj (h.symm.trans hs)
    dsimp only
    split
    · split
      · next ht => simp only [ht, Option.map_some]
      · next ht =>
        split
        · next hend => exact absurd hend (ht _)
        · exact map_itemsAt? _ _ _
    split
    · split
      · next ht => simp only [ht, Option.map_some]
      · next ht =>
        split
        · next hend => exact absurd hend (ht _)
        · exact map_fieldsAt? _ _ _
    split
    · rw [← map_string?]
      split
      · next hst => rw [hst]; rfl
      · next hst => rw [hst]; rfl
    · unfold scalarFront?
      dsimp only
      split
      · next hst => rw [hst]; rfl
      · next hst => rw [hst]; rfl

/-- A value, and then a comma and more items or the closing bracket. -/
theorem itemsFront?_eq (cs : List Char) (acc : List Written) : itemsFront? cs acc =
    (front? cs).bind fun p =>
      match skip p.2 with
      | [] => none
      | c :: rest =>
        if c = ',' then itemsFront? rest (p.1 :: acc)
        else if c = ']' then some (.arr (p.1 :: acc).reverse, rest)
        else none := by
  rw [itemsFront?, itemsAt?, front?]
  split
  · next h => rw [h]; rfl
  · next v rest hlt h =>
    rw [h]
    simp only [Option.map_some, Option.bind_some]
    split
    · next hs => simp only [hs, Option.map_none]
    · next c rest' hs =>
      simp only [hs]
      split
      · -- What is left is shorter, so the bound that remains serves for it.
        exact map_itemsAt? _ _ _
      · split <;> rfl

/-- A name, a colon and a value, and then a comma and more fields or the closing brace. -/
theorem fieldsFront?_eq (cs : List Char) (acc : List (Option String × Written)) :
    fieldsFront? cs acc =
      match skip cs with
      | '"' :: rest => (stringFront? rest).bind fun key =>
        match skip key.2 with
        | ':' :: rest => (front? rest).bind fun p =>
          match skip p.2 with
          | [] => none
          | c :: rest =>
            if c = ',' then fieldsFront? rest ((key.1, p.1) :: acc)
            else if c = '\x7d' then some (.obj ((key.1, p.1) :: acc).reverse, rest)
            else none
        | _ => none
      | _ => none := by
  rw [fieldsFront?, fieldsAt?]
  split
  · next afterQuote hq =>
    simp only [hq, ← map_string?]
    split
    · next h => rw [h]; rfl
    · next key afterKey hk hstring =>
      rw [hstring]
      simp only [Option.map_some, Option.bind_some]
      split
      · next afterColon hc =>
        simp only [hc, front?]
        split
        · next h => rw [h]; rfl
        · next v rest hlt h =>
          rw [h]
          simp only [Option.map_some, Option.bind_some]
          split
          · next hs => simp only [hs, Option.map_none]
          · next c rest' hs =>
            simp only [hs]
            split
            · exact map_fieldsAt? _ _ _
            · split <;> rfl
      · next hc =>
        split
        · next hcolon => exact absurd hcolon (hc _)
        · rfl
  · next hq =>
    split
    · next hquote => exact absurd hquote (hq _)
    · rfl

/-! ## Words, numbers, and what begins no value -/

theorem word?_append (word : List Char) (h : word ≠ []) (w : Written) (rest : List Char) :
    (word? word h w (word ++ rest)).map (·.1) = some (w, rest) := by
  unfold word?
  have hdrop := Text.dropLeading?_eq_some_iff.mpr (rfl : word ++ rest = word ++ rest)
  split
  · next hd =>
    obtain rfl := Option.some.inj (hdrop.symm.trans hd)
    rfl
  · next hd => rw [hdrop] at hd; cases hd

/-- Sign, digits, fraction and exponent, in this order. -/
theorem map_number? (cs : List Char) : (number? cs).map (·.1) =
    if isWhole (digits (minus cs).2) then
      (fraction? (afterDigits (minus cs).2)).bind fun f =>
        (exponent? f.2).map fun e =>
          (.num (Number.ofLiteral ⟨(minus cs).1, digits (minus cs).2, f.1, e.1.getD 0⟩
            (f.1.isEmpty && e.1.isNone)), e.2)
    else none := by
  unfold number?
  dsimp only
  split
  · split
    · next h => simp only [h]; rfl
    · next h =>
      split
      · next he => simp only [h, he, Option.bind_some, Option.map_none]
      · next he => simp only [h, he, Option.bind_some, Option.map_some]
  · rfl

theorem skip_cons {c : Char} (h : isSpace c = false) (rest : List Char) :
    skip (c :: rest) = c :: rest :=
  List.dropWhile_cons_of_neg (by simp [h])

theorem front?_scalar {c : Char} (h : isSpace c = false ∧ c ≠ '[' ∧ c ≠ '\x7b' ∧ c ≠ '"')
    (rest : List Char) : front? (c :: rest) = scalarFront? (c :: rest) := by
  rw [front?_of_skip (skip_cons h.1 rest), if_neg h.2.1, if_neg h.2.2.1, if_neg h.2.2.2]

/-- No value begins with a closing bracket, so `[1,]` is not read. -/
theorem front?_of_skip_close (h : skip cs = ']' :: rest) : front? cs = none := by
  rw [front?_of_skip h, if_neg (by decide), if_neg (by decide), if_neg (by decide)]
  show (number? (']' :: rest)).map (·.1) = none
  rw [map_number?]
  rfl

/-! ## Whole texts -/

/-- A text is read as a whole: nothing but blanks is left behind its value. -/
theorem read_eq (text : String) : read text =
    (front? text.toList).bind fun p => if (skip p.2).isEmpty then some p.1 else none := by
  unfold read front?
  split
  · next h => rw [h]; rfl
  · next h => rw [h]; rfl

end Written

theorem Json.parse?_empty : parse? "" = none := by
  rw [parse?, Written.read_eq, Written.front?_of_skip_nil rfl]
  rfl

end StepPipeline
