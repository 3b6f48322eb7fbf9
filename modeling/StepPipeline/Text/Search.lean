/-!
# Looking for a text inside a text

`occursIn needle text` says that `text` is `a ++ needle ++ b` for some `a` and `b`; `dropLeading?
front text` is what follows `front` at the start of `text`; `lines` cuts a text at its line feeds.
-/

namespace StepPipeline.Text

/-- What follows `front` in a text that starts with it. -/
def dropLeading? : List Char → List Char → Option (List Char)
  | [], text => some text
  | _ :: _, [] => none
  | a :: front, b :: text => if a = b then dropLeading? front text else none

def occursIn (needle : List Char) : List Char → Bool
  | [] => needle.isEmpty
  | c :: rest => (dropLeading? needle (c :: rest)).isSome || occursIn needle rest

def contains (s needle : String) : Bool := occursIn needle.toList s.toList

/-- The pieces between the line feeds; a line feed at the very end opens no further line. -/
def lines (text : List Char) : List (List Char) :=
  let pieces := text.splitOn '\n'
  if pieces.getLast? = some [] then pieces.dropLast else pieces

theorem dropLeading?_eq_some_iff {front text rest : List Char} :
    dropLeading? front text = some rest ↔ text = front ++ rest := by
  induction front generalizing text with
  | nil => simp [dropLeading?, eq_comm]
  | cons a front ih =>
    cases text with
    | nil => simp [dropLeading?]
    | cons b text =>
      simp only [dropLeading?, List.cons_append, List.cons.injEq]
      split
      · next h => subst h; simp [ih]
      · next h => simp [Ne.symm h]

/-- A text contains `needle` exactly when it reads `a`, then `needle`, then `b`. -/
theorem occursIn_iff {needle text : List Char} :
    occursIn needle text = true ↔ ∃ a b, text = a ++ needle ++ b := by
  induction text with
  | nil =>
    simp only [occursIn, List.isEmpty_iff]
    constructor
    · rintro rfl; exact ⟨[], [], rfl⟩
    · rintro ⟨a, b, h⟩
      have h := congrArg List.length h
      simp only [List.length_nil, List.length_append] at h
      exact List.length_eq_zero_iff.1 (by omega)
  | cons c rest ih =>
    simp only [occursIn, Bool.or_eq_true, ih, Option.isSome_iff_exists, dropLeading?_eq_some_iff]
    constructor
    · rintro (⟨b, hb⟩ | ⟨a, b, hab⟩)
      · exact ⟨[], b, by simpa using hb⟩
      · exact ⟨c :: a, b, by simp [hab]⟩
    · rintro ⟨a, b, hab⟩
      cases a with
      | nil => exact .inl ⟨b, by simpa using hab⟩
      | cons x a =>
        simp only [List.cons_append, List.cons.injEq] at hab
        exact .inr ⟨a, b, hab.2⟩

/-- A text is cut at the first place where a character stands. -/
theorem cut_append {c : Char} {front : List Char} (h : c ∉ front) (rest : List Char) :
    (front ++ c :: rest).takeWhile (· ≠ c) = front ∧
      (front ++ c :: rest).dropWhile (· ≠ c) = c :: rest := by
  have hfront : ∀ d ∈ front, decide (d ≠ c) = true := by
    intro d hd
    exact decide_eq_true fun heq => h (heq ▸ hd)
  rw [List.takeWhile_append_of_pos hfront, List.dropWhile_append_of_pos hfront]
  simp

end StepPipeline.Text
