import StepPipeline.Json.Printer
import StepPipeline.Proofs.Text.Blanks

/-!
# The compact text of a value

A compact text is a single line (`lineFeed_not_mem_compact`): the line feeds of a string are written
as escapes. It neither begins nor ends with a blank (`trim_compact`), though there may be blanks
inside it.
-/

namespace StepPipeline

/-! ## Numbers -/

namespace Decimal

/-- No layout of digits has a blank in it. -/
theorem isBlank_of_mem_write (l : Layout) (d : Nat) (g : Int) :
    ∀ c ∈ l.write d g, Text.isBlank c = false := by
  have hexponent : ∀ n, ∀ c ∈ Nat.toDigits 10 n, Text.isBlank c = false :=
    fun _ _ hc => isBlank_of_mem_toDigits hc
  have hdigits := hexponent d
  have hzeros : ∀ n, ∀ c ∈ List.replicate n '0', Text.isBlank c = false := by
    intro n c hc
    rw [List.eq_of_mem_replicate hc]
    rfl
  have hmarks : ∀ c ∈ ['0', '.', 'e', '+', '-'], Text.isBlank c = false := by
    simp [Text.isBlank]
  simp only [List.forall_mem_cons] at hmarks
  unfold Layout.write
  generalize Nat.toDigits 10 d = digits at hdigits
  dsimp only
  -- The five layouts, the last two with an exponent.
  split_ifs
  · simp only [List.forall_mem_append, List.forall_mem_cons, List.cons_append]
    exact ⟨hmarks.1, hmarks.2.1, hzeros _, hdigits⟩
  · simp only [List.forall_mem_append, List.forall_mem_cons]
    exact ⟨⟨hdigits, hzeros _⟩, hmarks.2.1, hmarks.1, List.forall_mem_nil _⟩
  · simp only [List.forall_mem_append, List.forall_mem_cons]
    exact ⟨fun c hc => hdigits c (List.mem_of_mem_take hc), hmarks.2.1,
      fun c hc => hdigits c (List.mem_of_mem_drop hc)⟩
  all_goals
    simp only [List.forall_mem_append, List.forall_mem_cons, hmarks, true_and]
    refine ⟨?_, hexponent _⟩
    split
    · exact hdigits
    · rw [List.forall_mem_cons] at hdigits ⊢
      exact ⟨hdigits.1, List.forall_mem_cons.mpr ⟨hmarks.2.1, hdigits.2⟩⟩
    · exact hdigits

theorem isBlank_of_mem_text (l : Layout) (x : Float) : ∀ c ∈ l.text x, Text.isBlank c = false := by
  have hzero : ∀ c ∈ ['0', '.', '0'], Text.isBlank c = false := by simp [Text.isBlank]
  have hsize := isBlank_of_mem_write l (shortest x).1 (shortest x).2
  unfold Layout.text
  dsimp only
  split_ifs
  · exact List.forall_mem_cons.mpr ⟨rfl, hzero⟩
  · exact List.forall_mem_cons.mpr ⟨rfl, hsize⟩
  · exact hzero
  · exact hsize

end Decimal

theorem Number.isBlank_of_mem_text (n : Number) : ∀ c ∈ n.text, Text.isBlank c = false := by
  cases n with
  | int n =>
      show ∀ c ∈ (if n < 0 then ['-'] else []) ++ Nat.toDigits 10 n.natAbs, _
      rw [List.forall_mem_append]
      refine ⟨?_, fun c hc => Decimal.isBlank_of_mem_toDigits hc⟩
      split_ifs
      · exact List.forall_mem_singleton.mpr rfl
      · exact List.forall_mem_nil _
  | float x =>
      show ∀ c ∈ if x.isFinite then layout.text x else ['n', 'u', 'l', 'l'], _
      split_ifs
      · exact Decimal.isBlank_of_mem_text layout x
      · simp [Text.isBlank]

namespace Json

/-! ## Strings -/

theorem lineFeed_not_mem_escapeChar (c : Char) : '\n' ∉ escapeChar c := by
  have hdigit : ∀ n, '\n' ≠ hexDigit n := by
    intro n
    have hall : ∀ k < 16, '\n' ≠ Nat.digitChar k := by decide
    exact hall _ (Nat.mod_lt n (by decide))
  unfold escapeChar
  split_ifs <;> simp_all [eq_comm]

theorem lineFeed_not_mem_quote (s : String) : '\n' ∉ (quote s).toList := by
  simp [quote, lineFeed_not_mem_escapeChar]

/-! ## All values -/

theorem not_mem_intercalate {separator : List Char} {parts : List (List Char)} {c : Char}
    (hseparator : c ∉ separator) (hparts : ∀ part ∈ parts, c ∉ part) :
    c ∉ separator.intercalate parts := by
  induction parts with
  | nil => exact List.not_mem_nil
  | cons part parts ih =>
      rw [List.forall_mem_cons] at hparts
      -- A separator stands in front of every part but the first.
      cases parts with
      | nil => simpa using hparts.1
      | cons next others =>
          rw [List.intercalate_cons_cons]
          simp only [List.mem_append, not_or]
          exact ⟨⟨hparts.1, hseparator⟩, ih hparts.2⟩

theorem lineFeed_not_mem_listed {parts : List String} (h : ∀ part ∈ parts, '\n' ∉ part.toList) :
    '\n' ∉ (",".intercalate parts).toList := by
  rw [String.toList_intercalate]
  apply not_mem_intercalate (by decide)
  intro part hpart
  obtain ⟨text, htext, rfl⟩ := List.mem_map.mp hpart
  exact h text htext

/-- Compact texts are single lines. -/
theorem lineFeed_not_mem_compact (v : Json) : '\n' ∉ v.compact.toList := by
  fun_induction compact v with
  | case1 => decide
  | case2 => decide
  | case3 => decide
  | case4 n =>
      rw [String.toList_ofList]
      intro hmem
      exact absurd (n.isBlank_of_mem_text _ hmem) (by decide)
  | case5 s => exact lineFeed_not_mem_quote s
  | case6 items ih =>
      have hitems : '\n' ∉ (",".intercalate (items.map fun v => v.compact)).toList := by
        apply lineFeed_not_mem_listed
        simpa using ih
      simp only [String.toList_append, List.mem_append, not_or]
      exact ⟨⟨by decide, hitems⟩, by decide⟩
  | case7 fields ih =>
      have hfields : '\n' ∉
          (",".intercalate (fields.map fun e => quote e.1 ++ ":" ++ e.2.compact)).toList := by
        apply lineFeed_not_mem_listed
        intro part hpart
        obtain ⟨e, he, rfl⟩ := List.mem_map.mp hpart
        simp [lineFeed_not_mem_quote, ih e he]
      simp only [String.toList_append, List.mem_append, not_or]
      exact ⟨⟨by decide, hfields⟩, by decide⟩

/-- A text between two marks that are no blanks. -/
theorem trim_enclosed {front back : Char} (hfront : Text.isBlank front = false)
    (hback : Text.isBlank back = false) (cs : List Char) :
    Text.trim (front :: (cs ++ [back])) = front :: (cs ++ [back]) := by
  apply Text.trim_of_ends
  · rintro c ⟨⟩
    exact hfront
  · intro c hc
    rw [← List.cons_append, List.getLast?_concat] at hc
    obtain rfl := Option.some.inj hc
    exact hback

/-- No blank stands at either end of a compact text. -/
theorem trim_compact (v : Json) : Text.trim v.compact.toList = v.compact.toList := by
  have hbrace : Text.isBlank '\x7b' = false ∧ Text.isBlank '\x7d' = false := by decide
  cases v with
  | null =>
      rw [compact]
      rfl
  | bool b =>
      rw [compact]
      cases b <;> rfl
  | num n =>
      rw [compact, String.toList_ofList]
      exact Text.trim_of_not_blank n.isBlank_of_mem_text
  | str s =>
      rw [compact, quote, String.toList_append, String.toList_append]
      exact trim_enclosed rfl rfl _
  | arr items =>
      rw [compact, String.toList_append, String.toList_append]
      exact trim_enclosed rfl rfl _
  | obj fields =>
      rw [compact, String.toList_append, String.toList_append]
      exact trim_enclosed hbrace.1 hbrace.2 _

end Json
end StepPipeline
