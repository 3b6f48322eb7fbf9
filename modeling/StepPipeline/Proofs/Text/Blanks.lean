import Mathlib.Data.List.TakeWhile
import StepPipeline.Text.Blank
import StepPipeline.Text.Search

/-!
# Blanks around texts, and lines

Trimming drops blanks at both ends and nothing else: it makes no difference how many stand there
(`trim_of_blank_append`, `trim_append_of_blank`), and a text without any at its ends stays as it is
(`trim_of_ends`).

A text is cut into lines at its line feeds. A line feed at the very end opens no further line, but
who passes over empty lines cannot tell (`filterMap_lines`), and for him the lines of two texts with
a line feed between them are those of the first and those of the second (`filterMap_lines_append`).
-/

namespace StepPipeline

/-! ## Digits -/

theorem Decimal.isDigit_of_mem_toDigits {n : Nat} {c : Char} (h : c ∈ Nat.toDigits 10 n) :
    c.isDigit = true :=
  Nat.isDigit_of_mem_toDigits (by decide) (by decide) h

theorem Text.isBlank_of_isDigit {c : Char} (h : c.isDigit = true) : isBlank c = false := by
  have hrange : 48 ≤ c.toNat ∧ c.toNat ≤ 57 := by
    simpa [Char.isDigit, UInt32.le_iff_toNat_le] using h
  simp only [isBlank, Bool.or_eq_false_iff, Bool.and_eq_false_iff, decide_eq_false_iff_not,
    beq_eq_false_iff_ne]
  omega

theorem Decimal.isBlank_of_mem_toDigits {n : Nat} {c : Char} (h : c ∈ Nat.toDigits 10 n) :
    Text.isBlank c = false :=
  Text.isBlank_of_isDigit (isDigit_of_mem_toDigits h)

namespace Text

variable {cs gap : List Char}

/-! ## Trimming -/

theorem isBlank_or_mem_trimStart {c : Char} (h : c ∈ cs) :
    isBlank c = true ∨ c ∈ trimStart cs := by
  rw [← List.takeWhile_append_dropWhile (p := isBlank) (l := cs)] at h
  exact (List.mem_append.mp h).imp List.mem_takeWhile_imp id

theorem isBlank_or_mem_trim {c : Char} (h : c ∈ cs) : isBlank c = true ∨ c ∈ trim cs := by
  rcases isBlank_or_mem_trimStart h with hblank | hmem
  · exact .inl hblank
  · rw [trim, trimEnd, List.mem_reverse]
    exact isBlank_or_mem_trimStart (List.mem_reverse.mpr hmem)

theorem trimStart_of_head (h : ∀ c ∈ cs.head?, isBlank c = false) : trimStart cs = cs := by
  cases cs with
  | nil => rfl
  | cons c cs => exact List.dropWhile_cons_of_neg (by simp [h c rfl])

theorem trimEnd_of_last (h : ∀ c ∈ cs.getLast?, isBlank c = false) : trimEnd cs = cs := by
  have hreverse : trimStart cs.reverse = cs.reverse :=
    trimStart_of_head fun c hc => h c (by rwa [List.head?_reverse] at hc)
  exact (congrArg List.reverse hreverse).trans (List.reverse_reverse cs)

/-- A text that neither begins nor ends with a blank stays as it is. -/
theorem trim_of_ends (hhead : ∀ c ∈ cs.head?, isBlank c = false)
    (hlast : ∀ c ∈ cs.getLast?, isBlank c = false) : trim cs = cs := by
  rw [trim, trimStart_of_head hhead, trimEnd_of_last hlast]

theorem trim_of_not_blank (h : ∀ c ∈ cs, isBlank c = false) : trim cs = cs :=
  trim_of_ends (fun c hc => h c (List.mem_of_mem_head? hc))
    (fun c hc => h c (List.mem_of_mem_getLast? hc))

theorem trimStart_of_blank (h : ∀ c ∈ gap, isBlank c = true) : trimStart gap = [] :=
  List.dropWhile_eq_nil_iff.mpr h

theorem trim_of_blank_append (h : ∀ c ∈ gap, isBlank c = true) (cs : List Char) :
    trim (gap ++ cs) = trim cs := by
  rw [trim, trim, trimStart, List.dropWhile_append_of_pos h]
  rfl

theorem trimEnd_append_of_blank (h : ∀ c ∈ gap, isBlank c = true) (cs : List Char) :
    trimEnd (cs ++ gap) = trimEnd cs := by
  rw [trimEnd, List.reverse_append,
    List.dropWhile_append_of_pos fun c hc => h c (List.mem_reverse.mp hc)]
  rfl

theorem trim_append_of_blank (h : ∀ c ∈ gap, isBlank c = true) (cs : List Char) :
    trim (cs ++ gap) = trim cs := by
  rw [trim, trim, trimStart, List.dropWhile_append]
  split
  · next hnil =>
    -- Nothing is left of the text itself, so nothing is left of it and the blanks behind it.
    have hstart : trimStart cs = [] := List.isEmpty_iff.mp hnil
    have hgap : gap.dropWhile isBlank = [] := trimStart_of_blank h
    rw [hstart, hgap]
  · exact trimEnd_append_of_blank h _

/-- The end of a text is that text, but for blanks behind it. -/
theorem exists_trimEnd_append (cs : List Char) :
    ∃ gap, (∀ c ∈ gap, isBlank c = true) ∧ cs = trimEnd cs ++ gap := by
  refine ⟨(cs.reverse.takeWhile isBlank).reverse, ?_, ?_⟩
  · intro c hc
    exact List.mem_takeWhile_imp (List.mem_reverse.mp hc)
  · rw [trimEnd, ← List.reverse_append, List.takeWhile_append_dropWhile, List.reverse_reverse]

/-- To trim what is left of a text without the blanks behind it is to trim the text. -/
theorem trim_trimEnd (cs : List Char) : trim (trimEnd cs) = trim cs := by
  obtain ⟨gap, hblank, hcs⟩ := exists_trimEnd_append cs
  rw [← trim_append_of_blank hblank (trimEnd cs), ← hcs]

/-- What stands in front of a character that is no blank is not trimmed from behind. -/
theorem trimEnd_append_cons {c : Char} (hc : isBlank c = false) (front rest : List Char) :
    trimEnd (front ++ c :: rest) = front ++ c :: trimEnd rest := by
  have hrest : ∀ tail, (c :: tail).dropWhile isBlank = c :: tail := fun tail =>
    List.dropWhile_cons_of_neg (by simp [hc])
  simp only [trimEnd, List.reverse_append, List.reverse_cons, List.append_assoc,
    List.singleton_append, List.dropWhile_append, hrest]
  split
  · next hnil => simp [List.isEmpty_iff.mp hnil]
  · simp

/-! ## Lines -/

/-- Who passes over the empty line sees the pieces between the line feeds. -/
theorem filterMap_lines {α : Type} {read : List Char → Option α} (h : read [] = none)
    (text : List Char) : (lines text).filterMap read = (text.splitOn '\n').filterMap read := by
  unfold lines
  dsimp only
  split
  · next hlast =>
    obtain ⟨front, hfront⟩ := List.getLast?_eq_some_iff.mp hlast
    -- The last piece is empty and not a line, and it would be passed over.
    rw [hfront, List.dropLast_concat, List.filterMap_append, List.filterMap_cons, h,
      List.filterMap_nil, List.append_nil]
  · rfl

theorem filterMap_lines_append {α : Type} {read : List Char → Option α} (h : read [] = none)
    (a b : List Char) : (lines (a ++ '\n' :: b)).filterMap read =
      (lines a).filterMap read ++ (lines b).filterMap read := by
  have hsplit : (a ++ '\n' :: b).splitOn '\n' = a.splitOn '\n' ++ b.splitOn '\n' :=
    List.splitOnP_append_cons a b (beq_self_eq_true '\n')
  rw [filterMap_lines h, filterMap_lines h, filterMap_lines h, hsplit, List.filterMap_append]

theorem filterMap_lines_single {α : Type} {read : List Char → Option α} (h : read [] = none)
    {line : List Char} (hline : '\n' ∉ line) :
    (lines line).filterMap read = (read line).toList := by
  rw [filterMap_lines h, List.splitOn_eq_singleton hline]
  cases hread : read line <;> simp [hread]

end Text
end StepPipeline
