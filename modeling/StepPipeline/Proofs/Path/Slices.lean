import StepPipeline.Proofs.Path.Parts

/-!
# Reading a path by byte positions

A text can also be read without cutting it into lists: a bracket is found at a position, counted in
bytes, and what is before it and behind it is taken by positions. Such a slice exists only between
ends that are in order, inside the text and not inside a character (`Text.slice?`). A reader that
takes its pieces so (`Path.parseSlices?`) never asks for a slice that does not exist, and it reads
what `Path.parse` reads (`parseSlices?_eq`).

The positions in question are sizes of fronts of the part, and a slice is just what stands between
two of them (`slice?_eq_some_iff`).
-/

namespace StepPipeline

/-! ## Positions in a text -/

namespace Text

/-- The number of bytes of a text. -/
def size : List Char → Nat
  | [] => 0
  | c :: cs => c.utf8Size + size cs

/-- The first `n` bytes of a text and the rest of it, if a character ends at the cut. -/
def cutAt? : List Char → Nat → Option (List Char × List Char)
  | cs, 0 => some ([], cs)
  | [], _ + 1 => none
  | c :: cs, n + 1 =>
    if c.utf8Size ≤ n + 1 then
      (cutAt? cs (n + 1 - c.utf8Size)).map fun (front, rest) => (c :: front, rest)
    else none

/-- The text between two positions, if there is one. -/
def slice? (cs : List Char) (start stop : Nat) : Option (List Char) :=
  (cutAt? cs stop).bind fun (upTo, _) => (cutAt? upTo start).map Prod.snd

def find? (c : Char) : List Char → Option Nat
  | [] => none
  | d :: cs => if d = c then some 0 else (find? c cs).map (d.utf8Size + ·)

variable {c : Char} {cs front piece rest : List Char}

theorem size_append (front rest : List Char) : size (front ++ rest) = size front + size rest := by
  induction front with
  | nil => simp [size]
  | cons c front ih => simp [size, ih, Nat.add_assoc]

theorem cutAt?_append (front rest : List Char) :
    cutAt? (front ++ rest) (size front) = some (front, rest) := by
  induction front with
  | nil => cases rest <;> rfl
  | cons c front ih =>
      obtain ⟨n, hn⟩ := Nat.exists_eq_add_one_of_ne_zero (Nat.ne_of_gt c.utf8Size_pos)
      have hsize : size (c :: front) = (n + size front) + 1 := by
        rw [size, hn]
        omega
      have hrest : n + size front + 1 - c.utf8Size = size front := by omega
      rw [hsize, List.cons_append, cutAt?, if_pos (by omega), hrest, ih]
      rfl

theorem cutAt?_eq_some_iff {n : Nat} :
    cutAt? cs n = some (front, rest) ↔ cs = front ++ rest ∧ n = size front := by
  constructor
  · intro h
    induction cs generalizing n front with
    | nil =>
        cases n with
        | zero => cases h; exact ⟨rfl, rfl⟩
        | succ n => cases h
    | cons c cs ih =>
        cases n with
        | zero => cases h; exact ⟨rfl, rfl⟩
        | succ n =>
            rw [cutAt?] at h
            split at h
            · next hle =>
              obtain ⟨_, hcut, hpair⟩ := Option.map_eq_some_iff.mp h
              cases hpair
              obtain ⟨rfl, hsize⟩ := ih hcut
              refine ⟨rfl, ?_⟩
              rw [size]
              omega
            · cases h
  · rintro ⟨rfl, rfl⟩
    exact cutAt?_append front rest

/-- A slice stands between a front and the rest of the text, and its ends are the sizes of what is
before them. -/
theorem slice?_eq_some_iff {start stop : Nat} : slice? cs start stop = some piece ↔
    ∃ front rest, cs = front ++ piece ++ rest ∧ start = size front ∧
      stop = size (front ++ piece) := by
  constructor
  · intro h
    obtain ⟨⟨upTo, rest⟩, hstop, h⟩ := Option.bind_eq_some_iff.mp h
    obtain ⟨⟨front, _⟩, hstart, rfl⟩ := Option.map_eq_some_iff.mp h
    obtain ⟨rfl, rfl⟩ := cutAt?_eq_some_iff.mp hstop
    obtain ⟨rfl, rfl⟩ := cutAt?_eq_some_iff.mp hstart
    exact ⟨front, rest, rfl, rfl, rfl⟩
  · rintro ⟨front, rest, rfl, rfl, rfl⟩
    rw [slice?, cutAt?_append, Option.bind_some]
    dsimp only
    rw [cutAt?_append]
    rfl

theorem find?_of_not_mem (h : c ∉ cs) : find? c cs = none := by
  induction cs with
  | nil => rfl
  | cons d cs ih =>
      rw [List.mem_cons, not_or] at h
      rw [find?, if_neg (Ne.symm h.1), ih h.2]
      rfl

theorem find?_append (h : c ∉ front) (rest : List Char) :
    find? c (front ++ c :: rest) = some (size front) := by
  induction front with
  | nil => exact if_pos rfl
  | cons d front ih =>
      rw [List.mem_cons, not_or] at h
      rw [List.cons_append, find?, if_neg (Ne.symm h.1), ih h.2, size]
      rfl

end Text

/-! ## Reading by positions -/

namespace Path

/-- The segments of one part, its name and indices taken by positions. -/
def ofPartSlices? (part : List Char) : Option Path :=
  match Text.find? '[' part with
  | none => some [.key (String.ofList part)]
  | some opening =>
    if part.getLast? = some ']' ∧ opening + 1 < Text.size part then
      (Text.slice? part 0 opening).bind fun name =>
        (Text.slice? part (opening + 1) (Text.size part - 1)).map fun inside =>
          match (splitBrackets inside).mapM fun piece => Decimal.readIndex? (Text.trim piece) with
          | some indices => indexedName name indices
          | none => [.key (String.ofList part)]
    else some [.key (String.ofList part)]

/-- The path that a text writes, its parts read by positions. -/
def parseSlices? (text : String) : Option Path :=
  if text = "" then some []
  else ((text.toList.splitOn '.').mapM ofPartSlices?).map List.flatten

/-- A part that ends with a bracket, cut at the first bracket that opens. -/
theorem ofPartSlices?_bracketed {name : List Char} (h : '[' ∉ name) (inside : List Char) :
    ofPartSlices? (name ++ '[' :: (inside ++ [']'])) =
      some (ofPart (name ++ '[' :: (inside ++ [']']))) := by
  have hparts : name ++ '[' :: (inside ++ [']']) = name ++ ['['] ++ inside ++ [']'] := by simp
  have hlast : (name ++ '[' :: (inside ++ [']'])).getLast? = some ']' := by
    rw [hparts]
    exact List.getLast?_concat
  -- A bracket is one byte.
  have hfront : Text.size (name ++ ['[']) = Text.size name + 1 := Text.size_append name ['[']
  have hsize : Text.size (name ++ '[' :: (inside ++ [']'])) =
      Text.size (name ++ ['['] ++ inside) + 1 := by
    rw [hparts]
    exact Text.size_append _ [']']
  have hlt : Text.size name + 1 < Text.size (name ++ '[' :: (inside ++ [']'])) := by
    rw [hsize, Text.size_append, hfront]
    omega
  have hname : Text.slice? (name ++ '[' :: (inside ++ [']'])) 0 (Text.size name) = some name :=
    Text.slice?_eq_some_iff.mpr ⟨[], _, rfl, rfl, rfl⟩
  have hinside : Text.slice? (name ++ '[' :: (inside ++ [']'])) (Text.size name + 1)
      (Text.size (name ++ '[' :: (inside ++ [']'])) - 1) = some inside := by
    rw [hsize, Nat.add_sub_cancel]
    exact Text.slice?_eq_some_iff.mpr ⟨name ++ ['['], [']'], hparts, hfront.symm, rfl⟩
  rw [ofPartSlices?, Text.find?_append h]
  dsimp only
  rw [if_pos ⟨hlast, hlt⟩, hname, Option.bind_some, hinside, Option.map_some, ofPart, indices?,
    insideBrackets?_append h, if_pos List.getLast?_concat, List.dropLast_concat, Option.bind_some,
    beforeBracket_append h]
  rfl

theorem ofPartSlices?_eq (part : List Char) : ofPartSlices? part = some (ofPart part) := by
  rcases bracket_cases part with hfree | ⟨name, rest, rfl, hfree⟩
  · rw [ofPartSlices?, Text.find?_of_not_mem hfree, ofPart_of_not_mem hfree]
  · by_cases hlast : rest.getLast? = some ']'
    · obtain ⟨inside, rfl⟩ := List.getLast?_eq_some_iff.mp hlast
      exact ofPartSlices?_bracketed hfree inside
    · have hpart : (name ++ '[' :: rest).getLast? ≠ some ']' := by
        cases rest with
        | nil => simp
        | cons c rest => simpa using hlast
      rw [ofPartSlices?, Text.find?_append hfree]
      dsimp only
      rw [if_neg fun h => hpart h.1, ofPart, indices?, insideBrackets?_append hfree, if_neg hlast]
      rfl

/-- Reading by positions never leaves a part, and it reads the same path. -/
theorem parseSlices?_eq (text : String) : parseSlices? text = some (parse text) := by
  rw [parseSlices?, parse]
  split
  · rfl
  · have hparts : (text.toList.splitOn '.').mapM ofPartSlices? =
        some ((text.toList.splitOn '.').map ofPart) := by
      rw [List.mapM_eq_some_iff_forall₂, List.forall₂_map_right_iff, List.forall₂_same]
      exact fun part _ => ofPartSlices?_eq part
    rw [hparts, List.flatMap_def]
    rfl

end Path
end StepPipeline
