import StepPipeline.Path.Basic
import StepPipeline.Proofs.Computations
import StepPipeline.Proofs.Text.Blanks

/-!
# How a path is read

A path is cut at its dots, and each part is read by itself. A part of the form `name[s₁]…[sₖ]`, in
which every `sᵢ` writes an index (`Path.IsIndexed`), is a name and its indices; every other part is
one key, whatever it looks like. `Path.Reads` says this without the functions that read, and
`Path.parse_eq_iff` says that they read just so.

The reader finds the brackets by cutting at `][`, which is exact because a text that writes an index
has no bracket in it.
-/

namespace StepPipeline

/-! ## Texts -/

namespace Text

/-- Every text is put together of texts without a separator. -/
theorem exists_pieces (separator : Char) (cs : List Char) : ∃ pieces, pieces ≠ [] ∧
    (∀ piece ∈ pieces, separator ∉ piece) ∧ [separator].intercalate pieces = cs := by
  induction cs with
  | nil => exact ⟨[[]], by simp⟩
  | cons c rest ih =>
      obtain ⟨pieces, hne, hfree, rfl⟩ := ih
      -- A separator begins a new piece, and any other character goes to the first one.
      by_cases hc : c = separator
      · refine ⟨[] :: pieces, List.cons_ne_nil _ _, ?_, ?_⟩
        · exact List.forall_mem_cons.mpr ⟨List.not_mem_nil, hfree⟩
        · rw [List.intercalate_cons_of_ne_nil hne, hc]
          rfl
      · cases pieces with
        | nil => exact absurd rfl hne
        | cons piece pieces =>
            obtain ⟨hpiece, hpieces⟩ := List.forall_mem_cons.mp hfree
            refine ⟨(c :: piece) :: pieces, List.cons_ne_nil _ _, ?_, ?_⟩
            · refine List.forall_mem_cons.mpr ⟨?_, hpieces⟩
              rw [List.mem_cons, not_or]
              exact ⟨Ne.symm hc, hpiece⟩
            · cases pieces with
              | nil => simp
              | cons next others => simp [List.intercalate_cons_cons]

end Text

namespace Decimal

/-- Text of an index: digits, perhaps behind a plus sign, of a number below `2 ^ 64`. -/
def WritesIndex (cs : List Char) (n : Nat) : Prop :=
  ∃ digits, (cs = digits ∨ cs = '+' :: digits) ∧ digits ≠ [] ∧
    (∀ c ∈ digits, c.isDigit = true) ∧ Nat.ofDigitChars 10 digits 0 = n ∧ n < indexBound

variable {cs : List Char} {n : Nat}

theorem isDigits_iff : isDigits cs = true ↔ cs ≠ [] ∧ ∀ c ∈ cs, c.isDigit = true := by
  rw [isDigits, Bool.and_eq_true, Bool.not_eq_true', ← List.all_eq_true, List.isEmpty_eq_false_iff]

theorem dropPlus_of_isDigits (h : isDigits cs = true) : dropPlus cs = cs := by
  unfold dropPlus
  split
  · cases (isDigits_iff.mp h).2 '+' List.mem_cons_self
  · rfl

theorem readIndex?_iff_writesIndex : readIndex? cs = some n ↔ WritesIndex cs n := by
  rw [readIndex?_eq_some_iff]
  constructor
  · rintro ⟨hdigits, hvalue, hlt⟩
    obtain ⟨hne, hall⟩ := isDigits_iff.mp hdigits
    refine ⟨dropPlus cs, ?_, hne, hall, hvalue, hlt⟩
    unfold dropPlus
    split
    · exact .inr rfl
    · exact .inl rfl
  · rintro ⟨digits, hcs, hne, hall, hvalue, hlt⟩
    have hdigits : isDigits digits = true := isDigits_iff.mpr ⟨hne, hall⟩
    have hdrop : dropPlus cs = digits := by
      rcases hcs with rfl | rfl
      · exact dropPlus_of_isDigits hdigits
      · rfl
    rw [hdrop]
    exact ⟨hdigits, hvalue, hlt⟩

theorem WritesIndex.not_mem_bracket (h : WritesIndex (Text.trim cs) n) : ']' ∉ cs := by
  intro hmem
  obtain ⟨digits, hcs, -, hall, -⟩ := h
  -- A bracket is neither a blank around an index nor one of its digits.
  rcases Text.isBlank_or_mem_trim hmem with hblank | htrim
  · exact absurd hblank (by decide)
  · rcases hcs with hcs | hcs
    · exact absurd (hall _ (hcs ▸ htrim)) (by decide)
    · rw [hcs, List.mem_cons] at htrim
      rcases htrim with hplus | hdigit
      · exact absurd hplus (by decide)
      · exact absurd (hall _ hdigit) (by decide)

end Decimal

namespace Path

/-! ## Cutting between brackets -/

theorem splitBrackets_ne_nil (cs : List Char) : splitBrackets cs ≠ [] := by
  fun_cases splitBrackets cs <;> simp_all

theorem splitBrackets_cons {c : Char} (h : c ≠ ']') {rest piece : List Char}
    {pieces : List (List Char)} (hrest : splitBrackets rest = piece :: pieces) :
    splitBrackets (c :: rest) = (c :: piece) :: pieces := by
  rw [splitBrackets, hrest]
  rintro _ rfl
  exact absurd rfl h

/-- Cutting loses nothing but the brackets at which it cuts. -/
theorem intercalate_splitBrackets (cs : List Char) :
    [']', '['].intercalate (splitBrackets cs) = cs := by
  fun_induction splitBrackets cs with
  | case1 => rfl
  -- Here the text is cut, and the two brackets are put back.
  | case2 rest ih =>
      rw [List.intercalate_cons_of_ne_nil (splitBrackets_ne_nil rest), ih]
      rfl
  | case3 c rest _ hnil => exact absurd hnil (splitBrackets_ne_nil rest)
  | case4 c rest _ piece pieces hrest ih =>
      rw [hrest] at ih
      cases pieces with
      | nil => simpa using ih
      | cons next others => simpa [List.intercalate_cons_cons] using ih

theorem splitBrackets_of_not_mem {piece : List Char} (h : ']' ∉ piece) :
    splitBrackets piece = [piece] := by
  induction piece with
  | nil => rfl
  | cons c piece ih =>
      rw [List.mem_cons, not_or] at h
      exact splitBrackets_cons (Ne.symm h.1) (ih h.2)

theorem splitBrackets_append {piece : List Char} (h : ']' ∉ piece) (rest : List Char) :
    splitBrackets (piece ++ ']' :: '[' :: rest) = piece :: splitBrackets rest := by
  induction piece with
  | nil => rfl
  | cons c piece ih =>
      rw [List.mem_cons, not_or] at h
      exact splitBrackets_cons (Ne.symm h.1) (ih h.2)

/-- Cutting finds again what was joined, as long as no piece closes a bracket itself. -/
theorem splitBrackets_intercalate {pieces : List (List Char)} (hne : pieces ≠ [])
    (h : ∀ piece ∈ pieces, ']' ∉ piece) :
    splitBrackets ([']', '['].intercalate pieces) = pieces := by
  induction pieces with
  | nil => exact absurd rfl hne
  | cons piece pieces ih =>
      obtain ⟨hpiece, hpieces⟩ := List.forall_mem_cons.mp h
      cases pieces with
      | nil =>
          rw [List.intercalate_singleton]
          exact splitBrackets_of_not_mem hpiece
      | cons next others =>
          rw [List.intercalate_cons_cons, List.append_assoc]
          exact (splitBrackets_append hpiece _).trans
            (congrArg _ (ih (List.cons_ne_nil _ _) hpieces))

/-! ## One part -/

def bracketed (piece : List Char) : List Char := '[' :: (piece ++ [']'])

/-- A part of the form `name[s₁]…[sₖ]`. There is at least one index, and no bracket opens in the
name; there may be blanks around an index. -/
structure IsIndexed (part name : List Char) (indices : List Nat) : Prop where
  free : '[' ∉ name
  exists_pieces : ∃ pieces, pieces ≠ [] ∧ part = name ++ pieces.flatMap bracketed ∧
    List.Forall₂ (fun piece i => Decimal.WritesIndex (Text.trim piece) i) pieces indices

/-- The segments of a name, which may be missing, and its indices. -/
def indexedName (name : List Char) (indices : List Nat) : Path :=
  (if name.isEmpty then [] else [.key (String.ofList name)]) ++ indices.map .index

theorem flatMap_bracketed {pieces : List (List Char)} (h : pieces ≠ []) :
    pieces.flatMap bracketed = '[' :: ([']', '['].intercalate pieces ++ [']']) := by
  induction pieces with
  | nil => exact absurd rfl h
  | cons piece pieces ih =>
      cases pieces with
      | nil => simp [bracketed]
      | cons next others =>
          rw [List.flatMap_cons, ih (List.cons_ne_nil _ _), List.intercalate_cons_cons]
          simp [bracketed]

theorem beforeBracket_append {name : List Char} (h : '[' ∉ name) (rest : List Char) :
    beforeBracket (name ++ '[' :: rest) = name :=
  (Text.cut_append h rest).1

theorem insideBrackets?_append {name : List Char} (h : '[' ∉ name) (rest : List Char) :
    insideBrackets? (name ++ '[' :: rest) =
      if rest.getLast? = some ']' then some rest.dropLast else none := by
  rw [insideBrackets?, (Text.cut_append h rest).2]

theorem insideBrackets?_of_not_mem {part : List Char} (h : '[' ∉ part) :
    insideBrackets? part = none := by
  have hnil : part.dropWhile (· ≠ '[') = [] := by
    rw [List.dropWhile_eq_nil_iff]
    intro c hc
    exact decide_eq_true (ne_of_mem_of_not_mem hc h)
  rw [insideBrackets?, hnil]

/-- A part without an opening bracket, or cut at the first one. -/
theorem bracket_cases (part : List Char) : '[' ∉ part ∨
    ∃ name rest, part = name ++ '[' :: rest ∧ '[' ∉ name := by
  by_cases h : '[' ∈ part
  · obtain ⟨name, rest, rfl, hfree⟩ := List.eq_append_cons_of_mem h
    exact .inr ⟨name, rest, rfl, hfree⟩
  · exact .inl h

variable {part name : List Char} {indices : List Nat}

/-- A part has the form of an indexed name exactly if indices are read from it. -/
theorem isIndexed_iff :
    IsIndexed part name indices ↔ beforeBracket part = name ∧ indices? part = some indices := by
  constructor
  · rintro ⟨hfree, pieces, hne, rfl, hindices⟩
    -- So the pieces can be found again in the text between the outer brackets.
    have hbrackets : ∀ piece ∈ pieces, ']' ∉ piece :=
      (List.forall₂_and_left pieces indices).mp (hindices.imp fun _ _ h => ⟨h.not_mem_bracket, h⟩)
        |>.1
    rw [flatMap_bracketed hne]
    refine ⟨beforeBracket_append hfree _, ?_⟩
    rw [indices?, insideBrackets?_append hfree, if_pos (List.getLast?_concat), List.dropLast_concat,
      Option.bind_some, splitBrackets_intercalate hne hbrackets, List.mapM_eq_some_iff_forall₂]
    exact hindices.imp fun _ _ => Decimal.readIndex?_iff_writesIndex.mpr
  · rintro ⟨rfl, hindices⟩
    obtain ⟨inside, hinside, hindices⟩ := Option.bind_eq_some_iff.mp hindices
    rcases bracket_cases part with hfree | ⟨name, rest, rfl, hfree⟩
    · rw [insideBrackets?_of_not_mem hfree] at hinside
      cases hinside
    · rw [insideBrackets?_append hfree] at hinside
      split at hinside
      · next hlast =>
        obtain ⟨front, rfl⟩ := List.getLast?_eq_some_iff.mp hlast
        rw [List.dropLast_concat] at hinside
        obtain rfl := Option.some.inj hinside
        rw [beforeBracket_append hfree]
        refine ⟨hfree, splitBrackets front, splitBrackets_ne_nil front, ?_, ?_⟩
        · rw [flatMap_bracketed (splitBrackets_ne_nil front), intercalate_splitBrackets]
        · exact (List.mapM_eq_some_iff_forall₂.mp hindices).imp
            fun _ _ => Decimal.readIndex?_iff_writesIndex.mp
      · cases hinside

theorem IsIndexed.index_lt (h : IsIndexed part name indices) : ∀ i ∈ indices, i < Decimal.indexBound := by
  obtain ⟨-, pieces, -, -, hindices⟩ := h
  have hlt : List.Forall₂
      (fun i piece => i < Decimal.indexBound ∧ Decimal.WritesIndex (Text.trim piece) i)
      indices pieces := by
    refine List.Forall₂.flip (hindices.imp fun piece i hi => ⟨?_, hi⟩)
    obtain ⟨digits, -, -, -, -, hlt⟩ := hi
    exact hlt
  exact ((List.forall₂_and_left indices pieces).mp hlt).1

/-- What a part is read as. -/
inductive ReadsPart (part : List Char) : Path → Prop
  | indexed {name : List Char} {indices : List Nat} (h : IsIndexed part name indices) :
      ReadsPart part (indexedName name indices)
  | plain (h : ∀ name indices, ¬IsIndexed part name indices) :
      ReadsPart part [.key (String.ofList part)]

theorem ofPart_of_isIndexed (h : IsIndexed part name indices) :
    ofPart part = indexedName name indices := by
  obtain ⟨rfl, hindices⟩ := isIndexed_iff.mp h
  rw [ofPart, hindices]
  rfl

theorem ofPart_of_not_isIndexed (h : ∀ name indices, ¬IsIndexed part name indices) :
    ofPart part = [.key (String.ofList part)] := by
  have hnone : indices? part = none := by
    cases hindices : indices? part with
    | none => rfl
    | some indices => exact absurd (isIndexed_iff.mpr ⟨rfl, hindices⟩) (h _ _)
  rw [ofPart, hnone]

theorem ofPart_of_not_mem (h : '[' ∉ part) : ofPart part = [.key (String.ofList part)] := by
  rw [ofPart, indices?, insideBrackets?_of_not_mem h]
  rfl

/-- Every part is read, and in one way only. -/
theorem ofPart_eq_iff {p : Path} : ofPart part = p ↔ ReadsPart part p := by
  constructor
  · rintro rfl
    by_cases h : ∃ name indices, IsIndexed part name indices
    · obtain ⟨name, indices, h⟩ := h
      rw [ofPart_of_isIndexed h]
      exact .indexed h
    · have hnone : ∀ name indices, ¬IsIndexed part name indices :=
        fun name indices hindexed => h ⟨name, indices, hindexed⟩
      rw [ofPart_of_not_isIndexed hnone]
      exact .plain hnone
  · rintro (h | h)
    · exact ofPart_of_isIndexed h
    · exact ofPart_of_not_isIndexed h

/-! ## The whole path -/

/-- What a path is read as: the segments of its parts, which are what stands between its dots. -/
inductive Reads : String → Path → Prop
  | empty : Reads "" []
  | parts {text : String} {parts : List (List Char)} {segments : List Path} (hne : text ≠ "")
      (htext : text.toList = ['.'].intercalate parts) (hfree : ∀ part ∈ parts, '.' ∉ part)
      (hparts : List.Forall₂ ReadsPart parts segments) : Reads text segments.flatten

def joined (parts : List (List Char)) : String := String.ofList (['.'].intercalate parts)

theorem parse_joined {parts : List (List Char)} (hne : joined parts ≠ "")
    (hfree : ∀ part ∈ parts, '.' ∉ part) : parse (joined parts) = parts.flatMap ofPart := by
  have hparts : parts ≠ [] := by
    rintro rfl
    exact hne rfl
  rw [parse, if_neg hne, joined, String.toList_ofList, List.splitOn_intercalate '.' hfree hparts]

/-- Parsing gives what the grammar gives, and nothing else does. -/
theorem parse_eq_iff {text : String} {p : Path} : parse text = p ↔ Reads text p := by
  constructor
  · rintro rfl
    by_cases hne : text = ""
    · subst hne
      exact .empty
    · obtain ⟨parts, -, hfree, htext⟩ := Text.exists_pieces '.' text.toList
      obtain rfl : joined parts = text := by rw [joined, htext, String.ofList_toList]
      rw [parse_joined hne hfree, List.flatMap_def]
      refine .parts hne htext.symm hfree ?_
      rw [List.forall₂_map_right_iff, List.forall₂_same]
      exact fun part _ => ofPart_eq_iff.mp rfl
  · -- A text is cut at its dots in one way, so the parts of the grammar are those of the parser.
    rintro (_ | ⟨hne, htext, hfree, hparts⟩)
    · rfl
    · next parts segments =>
      obtain rfl : joined parts = text := by rw [joined, ← htext, String.ofList_toList]
      have hsegments : parts.map ofPart = segments := by
        rw [← List.forall₂_eq_eq_eq, List.forall₂_map_left_iff]
        exact hparts.imp fun _ _ => ofPart_eq_iff.mpr
      rw [parse_joined hne hfree, List.flatMap_def, hsegments]

example : parse "a[ +1 ][02].b[]" = [.key "a", .index 1, .index 2, .key "b[]"] := by decide

end Path
end StepPipeline
