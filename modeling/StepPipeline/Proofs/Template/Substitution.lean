import StepPipeline.Proofs.Template.Texts

/-!
# Substitution is one pass

A text with placeholders is put together of literal text and of paths, each between its marks; a
`Spelling` is such a composition. What may stand in it is as free as can be: literal text may hold
dollar signs and braces as long as no dollar sign stands before an opening brace, and a path may
hold anything but a closing brace, even the mark of another placeholder.

Cutting the text gives back exactly the parts that it was put together of (`pieces_text`), so
resolving it is a matter of the parts alone: every path is looked up once, and what is found is put
in its place and not looked at again. Main statement: `resolve_spelling`.
-/

namespace StepPipeline

namespace Template

/-- Text in which no placeholder opens. -/
structure Literal where
  chars : List Char
  unmarked : Text.occursIn ['$', opening] chars = false := by decide

/-- What may stand between the marks of a placeholder. -/
structure SlotPath where
  chars : List Char
  nonempty : chars ≠ [] := by decide
  unclosed : closing ∉ chars := by decide

def SlotPath.name (p : SlotPath) : String := String.ofList p.chars

/-- Literal text, and behind it placeholders, each with the literal text that follows it. -/
structure Spelling where
  lead : Literal
  parts : List (SlotPath × Literal)

namespace Spelling

/-- The literal text as it is, with something in the place of each placeholder. -/
def filled (t : Spelling) (f : SlotPath → List Char) : List Char :=
  t.lead.chars ++ t.parts.flatMap fun e => f e.1 ++ e.2.chars

theorem filled_congr {t : Spelling} {f g : SlotPath → List Char}
    (h : ∀ e ∈ t.parts, f e.1 = g e.1) : t.filled f = t.filled g := by
  have hparts : (t.parts.map fun e => f e.1 ++ e.2.chars) =
      t.parts.map fun e => g e.1 ++ e.2.chars := by
    apply List.map_congr_left
    intro e he
    rw [h e he]
  rw [filled, filled, List.flatMap_def, List.flatMap_def, hparts]

def text (t : Spelling) : String := String.ofList (t.filled fun p => written p.chars)

/-- There is nothing but one placeholder, for this path. -/
def IsBare (t : Spelling) (p : SlotPath) : Prop :=
  t.lead.chars = [] ∧ ∃ after : Literal, after.chars = [] ∧ t.parts = [(p, after)]

end Spelling

/-! ## Cutting what was put together -/

theorem Literal.head?_ne_of_cons {c : Char} {rest : List Char} {l : Literal}
    (h : l.chars = c :: rest) (hc : c = '$') : rest.head? ≠ some opening := by
  intro hhead
  obtain ⟨rest', rfl⟩ := List.head?_eq_some_iff.mp hhead
  have hmark : Text.occursIn ['$', opening] l.chars = true :=
    Text.occursIn_iff.mpr ⟨[], rest', by rw [h, hc]; rfl⟩
  rw [l.unmarked] at hmark
  cases hmark

/-- Behind the first character, text in which no placeholder opens is such a text again. -/
def Literal.tail {c : Char} {rest : List Char} (l : Literal) (h : l.chars = c :: rest) :
    Literal where
  chars := rest
  unmarked := by
    have := l.unmarked
    rw [h, Text.occursIn, Bool.or_eq_false_iff] at this
    exact this.2

/-- A character that opens no placeholder is a piece of its own. -/
theorem pieces_cons {c : Char} {rest : List Char} (h : c = '$' → rest.head? ≠ some opening) :
    pieces (c :: rest) = .char c :: pieces rest := by
  apply pieces.eq_3
  rintro inner hc rfl
  exact h hc rfl

theorem pieces_literal (l : Literal) {rest : List Char} (h : rest.head? ≠ some opening) :
    pieces (l.chars ++ rest) = l.chars.map .char ++ pieces rest := by
  generalize hchars : l.chars = chars
  induction chars generalizing l with
  | nil => rfl
  | cons c chars ih =>
      -- The dollar sign may be the last character, and then what follows decides.
      have hhead : c = '$' → (chars ++ rest).head? ≠ some opening := by
        intro hc
        have hnext := l.head?_ne_of_cons hchars hc
        cases chars with
        | nil => exact h
        | cons d chars => exact hnext
      rw [List.cons_append, pieces_cons hhead, ih (l.tail hchars) rfl]
      rfl

/-- Whatever follows, a placeholder ends at the closing brace behind its path. -/
theorem slotAt?_path (p : SlotPath) (rest : List Char) :
    slotAt? (p.chars ++ closing :: rest) = some (p.chars, rest) := by
  obtain ⟨hinside, houtside⟩ := Text.cut_append p.unclosed rest
  obtain ⟨c, path, hchars⟩ := List.exists_cons_of_ne_nil p.nonempty
  rw [slotAt?, inside, outside, hinside, houtside, hchars]

theorem pieces_written (p : SlotPath) (rest : List Char) :
    pieces (written p.chars ++ rest) = .slot p.chars :: pieces rest := by
  have hshape : written p.chars ++ rest = '$' :: '\x7b' :: (p.chars ++ closing :: rest) := by
    simp [written, opening]
  rw [hshape, pieces]
  split
  · next path after h =>
    obtain ⟨rfl, rfl⟩ := Prod.mk.inj (Option.some.inj (h.symm.trans (slotAt?_path p rest)))
    rfl
  · next h =>
    rw [slotAt?_path] at h
    cases h

/-- A text falls into the parts that it was put together of. -/
theorem Spelling.pieces_text (t : Spelling) : pieces t.text.toList =
    t.lead.chars.map .char ++
      t.parts.flatMap fun e => .slot e.1.chars :: e.2.chars.map .char := by
  obtain ⟨lead, parts⟩ := t
  rw [text, String.toList_ofList, filled]
  induction parts generalizing lead with
  | nil =>
      have hend : ([] : List Char).head? ≠ some opening := by simp
      rw [List.flatMap_nil, List.flatMap_nil, pieces_literal lead hend, pieces]
  | cons e parts ih =>
      -- A placeholder begins with a dollar sign, so none opens across its front.
      have hfront : ∀ rest, (written e.1.chars ++ rest).head? ≠ some opening := by
        intro rest
        simp [written, opening]
      rw [List.flatMap_cons, List.flatMap_cons, List.append_assoc, pieces_literal lead (hfront _),
        pieces_written, List.cons_append, ← ih e.2]

/-! ## One placeholder and nothing else -/

def SlotPath.placeholder (p : SlotPath) : String := String.ofList (written p.chars)

theorem of_slotAt? {cs path rest : List Char} (h : slotAt? cs = some (path, rest)) :
    path ≠ [] ∧ closing ∉ path := by
  unfold slotAt? at h
  split at h
  · cases h
  · cases h
  · next c path' d rest' hinside _ =>
    obtain ⟨rfl, -⟩ := Prod.mk.inj (Option.some.inj h)
    refine ⟨List.cons_ne_nil _ _, fun hmem => ?_⟩
    rw [← hinside, inside] at hmem
    have hopen := List.all_eq_true.mp (List.all_takeWhile (l := cs)) closing hmem
    exact of_decide_eq_true hopen rfl

/-- What stands between the marks is never empty and holds no closing brace. -/
theorem of_slot_mem_pieces {cs path : List Char} (h : .slot path ∈ pieces cs) :
    path ≠ [] ∧ closing ∉ path := by
  fun_induction pieces cs with
  | case1 => cases h
  | case2 inner path' after hslot _ ih =>
      rcases List.mem_cons.mp h with heq | hafter
      · obtain rfl := Piece.slot.inj heq
        exact of_slotAt? hslot
      · exact ih hafter
  | case3 inner _ ih => exact ih ((List.mem_cons.mp h).resolve_left (by simp))
  | case4 c rest _ ih => exact ih ((List.mem_cons.mp h).resolve_left (by simp))

/-- **One placeholder and nothing else**: the text is written as one for a path. -/
theorem whole?_eq_some_iff {text path : String} :
    whole? text = some path ↔ ∃ p : SlotPath, p.name = path ∧ p.placeholder = text := by
  constructor
  · intro h
    rw [whole?] at h
    split at h
    · next cs hpieces =>
      obtain ⟨hne, hclosing⟩ := of_slot_mem_pieces (hpieces ▸ List.mem_singleton_self _)
      -- The pieces of a text are all of it, so there is nothing besides the placeholder.
      have htext := flatMap_text_pieces text.toList
      rw [hpieces, List.flatMap_singleton, Piece.text] at htext
      refine ⟨⟨cs, hne, hclosing⟩, Option.some.inj h, ?_⟩
      rw [SlotPath.placeholder, htext, String.ofList_toList]
    · cases h
  · rintro ⟨p, rfl, rfl⟩
    have hpieces := pieces_written p []
    rw [List.append_nil, pieces] at hpieces
    rw [whole?, SlotPath.placeholder, String.toList_ofList, hpieces]
    rfl

theorem whole?_placeholder (p : SlotPath) : whole? p.placeholder = some p.name :=
  whole?_eq_some_iff.mpr ⟨p, rfl, rfl⟩

end Template

/-! ## Filling the placeholders -/

namespace Scope

variable (s : Scope)

theorem resolveText_placeholder (p : Template.SlotPath) :
    s.resolveText p.placeholder = s.lookup? p.name := by
  rw [resolveText, Template.whole?_placeholder]

/-- What stands for a placeholder: the text of the value that is found, a string as it is and any
other value as compact JSON, or the placeholder itself if nothing is found. -/
def filling (p : Template.SlotPath) : List Char :=
  match s.lookup? p.name with
  | some (.str text) => text.toList
  | some v => v.compact.toList
  | none => Template.written p.chars

theorem expand_slot (p : Template.SlotPath) : s.expand (.slot p.chars) = s.filling p := by
  simp only [expand, filling, Template.SlotPath.name]
  cases s.lookup? (String.ofList p.chars) with
  | none => rfl
  | some v => cases v <;> rfl

theorem flatMap_expand_pieces (t : Template.Spelling) :
    (Template.pieces t.text.toList).flatMap s.expand = t.filled s.filling := by
  have hchars : ∀ chars : List Char, (chars.map Template.Piece.char).flatMap s.expand = chars := by
    intro chars
    rw [List.flatMap_map]
    exact List.flatMap_singleton' chars
  rw [t.pieces_text, List.flatMap_append, hchars, List.flatMap_assoc, Template.Spelling.filled]
  refine congrArg (fun f => t.lead.chars ++ t.parts.flatMap f) (funext fun e => ?_)
  rw [List.flatMap_cons, expand_slot, hchars]

end Scope

namespace Template

variable {t : Spelling} {p : SlotPath}

theorem whole?_of_isBare (h : t.IsBare p) : whole? t.text = some p.name := by
  obtain ⟨hlead, after, hafter, hparts⟩ := h
  rw [whole?, t.pieces_text, hlead, hparts, List.flatMap_cons, hafter]
  rfl

theorem exists_isBare_of_whole? {path : String} (h : whole? t.text = some path) :
    ∃ p, t.IsBare p := by
  rw [whole?, t.pieces_text] at h
  split at h
  · next slot hpieces =>
    -- One piece in all: no literal text in front, one placeholder, and no literal text behind it.
    cases hlead : t.lead.chars with
    | cons c chars =>
        rw [hlead] at hpieces
        cases hpieces
    | nil =>
        cases hparts : t.parts with
        | nil =>
            rw [hlead, hparts] at hpieces
            cases hpieces
        | cons e parts =>
            rw [hlead, hparts, List.map_nil, List.nil_append, List.flatMap_cons, List.cons_append]
              at hpieces
            obtain ⟨hafter, hrest⟩ := List.append_eq_nil_iff.mp (List.cons.inj hpieces).2
            refine ⟨e.1, hlead, e.2, List.map_eq_nil_iff.mp hafter, ?_⟩
            cases parts with
            | nil => exact hparts
            | cons e' parts => cases hrest
  · cases h

theorem hasSlot_text (h : t.parts ≠ []) : hasSlot t.text = true := by
  obtain ⟨e, parts, hparts⟩ := List.exists_cons_of_ne_nil h
  rw [hasSlot, t.pieces_text, hparts]
  simp [Piece.isSlot]

end Template

/-- **Substitution is one pass.** Let a text be put together of literal text and at least one
placeholder. If there is nothing but one placeholder, the text resolves to what is found for its
path, whatever that is, and to nothing if nothing is found. Otherwise it resolves to the same
literal text with the text of what is found in the place of each placeholder; if nothing is found
for any of them, this is the text itself. No name but those of the paths is looked up, whatever is
inserted. -/
theorem resolve_spelling (s : Scope) (t : Template.Spelling) (hparts : t.parts ≠ []) :
    (∀ p, t.IsBare p → s.resolve (.str t.text) = s.lookup? p.name) ∧
    ((∀ p, ¬t.IsBare p) →
      s.resolve (.str t.text) = some (.str (String.ofList (t.filled s.filling))) ∧
      ((∀ e ∈ t.parts, s.lookup? e.1.name = none) →
        s.resolve (.str t.text) = some (.str t.text))) ∧
    ∀ s' : Scope, (∀ e ∈ t.parts, s'.lookup? e.1.name = s.lookup? e.1.name) →
      s'.resolve (.str t.text) = s.resolve (.str t.text) := by
  have hbare : ∀ (s : Scope) p, t.IsBare p → s.resolve (.str t.text) = s.lookup? p.name := by
    intro s p hp
    rw [Scope.resolve, Scope.resolveText, Template.whole?_of_isBare hp]
  have hlong : (∀ p, ¬t.IsBare p) → ∀ s : Scope,
      s.resolve (.str t.text) = some (.str (String.ofList (t.filled s.filling))) := by
    intro hnone s
    have hwhole : Template.whole? t.text = none := by
      cases h : Template.whole? t.text with
      | none => rfl
      | some path =>
          obtain ⟨p, hp⟩ := Template.exists_isBare_of_whole? h
          exact absurd hp (hnone p)
    rw [Scope.resolve, Scope.resolveText, hwhole]
    dsimp only
    rw [if_pos (Template.hasSlot_text hparts), Scope.flatMap_expand_pieces]
  refine ⟨hbare s, fun hnone => ⟨hlong hnone s, fun hunresolved => ?_⟩, fun s' hsame => ?_⟩
  · rw [hlong hnone s, Template.Spelling.text]
    have hwritten : t.filled s.filling = t.filled fun p => Template.written p.chars := by
      apply Template.Spelling.filled_congr
      intro e he
      rw [Scope.filling, hunresolved e he]
    rw [hwritten]
  · -- A bare placeholder is looked up, and in a longer text each one is filled in.
    by_cases hone : ∃ p, t.IsBare p
    · obtain ⟨p, hp⟩ := hone
      have hmem : ∃ after, (p, after) ∈ t.parts := by
        obtain ⟨-, after, -, hparts⟩ := hp
        exact ⟨after, hparts ▸ List.mem_singleton_self _⟩
      obtain ⟨after, hafter⟩ := hmem
      rw [hbare s p hp, hbare s' p hp, hsame _ hafter]
    · have hnone := not_exists.mp hone
      have hfill : t.filled s'.filling = t.filled s.filling := by
        apply Template.Spelling.filled_congr
        intro e he
        rw [Scope.filling, Scope.filling, hsame e he]
      rw [hlong hnone s, hlong hnone s', hfill]

/-- A text with stray marks, the path of a slot whose value looks like a template, and a path that
holds the mark of a placeholder. -/
def strayMarks : Template.Spelling where
  lead := { chars := "$".toList }
  parts := [({ chars := "name".toList }, { chars := "\x7d$".toList }),
    ({ chars := "a$\x7bb".toList }, { chars := [] })]

/-- A context in which one of these paths is bound, to the mark of the other. -/
def markedName : Scope := ⟨[("name", .str "$\x7ba$\x7bb\x7d")], {}⟩

/-- The value that is found is inserted as it is, and the other placeholder stays. -/
theorem strayMarks_resolves :
    strayMarks.parts ≠ [] ∧
    strayMarks.text = "$$\x7bname\x7d\x7d$$\x7ba$\x7bb\x7d" ∧
    markedName.resolve (.str strayMarks.text) =
      some (.str "$$\x7ba$\x7bb\x7d\x7d$$\x7ba$\x7bb\x7d") := by
  have hparts : strayMarks.parts ≠ [] := List.cons_ne_nil _ _
  have hlead : ∀ p, ¬strayMarks.IsBare p := by
    rintro p ⟨hlead, -⟩
    cases hlead
  refine ⟨hparts, by decide, ?_⟩
  have hfilled : String.ofList (strayMarks.filled markedName.filling) =
      "$$\x7ba$\x7bb\x7d\x7d$$\x7ba$\x7bb\x7d" := by
    decide +kernel
  rw [((resolve_spelling markedName strayMarks hparts).2.1 hlead).1, hfilled]

end StepPipeline
