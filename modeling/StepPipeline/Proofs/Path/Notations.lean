import StepPipeline.Path.Access
import StepPipeline.Proofs.Path.Slices

/-!
# Indices in brackets and between dots

An index is written in brackets behind a name, or it is a part by itself: `a[0].b` and `a.0.b`. The
second path has the key `0` where the first one has the index 0, so the two are not equal. But in a
record an index is looked up by its digits, and in an array a key of digits is an index, so every
value has the same part at both (`child?_named`).

Main statement: `path_read_exactly`.
-/

namespace StepPipeline

/-! ## Digits are read back -/

namespace Decimal

variable {n : Nat}

theorem not_mem_toDigits {c : Char} (h : c.isDigit = false) : c ∉ Nat.toDigits 10 n := by
  intro hmem
  rw [isDigit_of_mem_toDigits hmem] at h
  cases h

theorem writesIndex_toDigits (h : n < indexBound) : WritesIndex (Nat.toDigits 10 n) n := by
  refine ⟨Nat.toDigits 10 n, .inl rfl, Nat.toDigits_ne_nil, ?_, Nat.ofDigitChars_ten_toDigits, h⟩
  intro c hc
  exact isDigit_of_mem_toDigits hc

theorem trim_toDigits (n : Nat) : Text.trim (Nat.toDigits 10 n) = Nat.toDigits 10 n :=
  Text.trim_of_not_blank fun _ hc => isBlank_of_mem_toDigits hc

end Decimal

/-! ## Keys for indices -/

namespace Segment

def named (s : Segment) : Segment := .key s.toKey

/-- The digits of the segment, if it is an index, are read back. -/
def InRange (s : Segment) : Prop := ∀ i, s = .index i → i < Decimal.indexBound

theorem toIndex?_named {s : Segment} (h : s.InRange) : s.named.toIndex? = s.toIndex? := by
  cases s with
  | key name => rfl
  | index i =>
      have hread : Decimal.readIndex? (Nat.toDigits 10 i) = some i :=
        Decimal.readIndex?_iff_writesIndex.mpr (Decimal.writesIndex_toDigits (h i rfl))
      show Decimal.readIndex? (String.ofList (Nat.toDigits 10 i)).toList = some i
      rw [String.toList_ofList, hread]

end Segment

namespace Json

/-- A record and an array have the same part for an index and for the key of its digits. -/
theorem child?_named {s : Segment} (h : s.InRange) (v : Json) : v.child? s.named = v.child? s := by
  cases v with
  | obj fields => rfl
  | arr items => rw [child?, Segment.toIndex?_named h, child?]
  | _ => rfl

theorem getAt?_map_named {p : Path} (h : ∀ s ∈ p, s.InRange) (root : Json) :
    root.getAt? (p.map Segment.named) = root.getAt? p := by
  induction p generalizing root with
  | nil => rfl
  | cons s rest ih =>
      obtain ⟨hs, hrest⟩ := List.forall_mem_cons.mp h
      rw [List.map_cons, getAt?, getAt?, child?_named hs]
      exact congrArg _ (funext (ih hrest))

end Json

namespace Path

theorem inRange_of_mem_ofPart {part : List Char} {s : Segment} (h : s ∈ ofPart part) :
    s.InRange := by
  rintro i rfl
  generalize hp : ofPart part = p at h
  cases ofPart_eq_iff.mp hp with
  | indexed hindexed =>
      rcases List.mem_append.mp h with hname | hindex
      · split at hname <;> simp at hname
      · obtain ⟨j, hj, hindex⟩ := List.mem_map.mp hindex
        obtain rfl := Segment.index.inj hindex
        exact hindexed.index_lt j hj
  | plain hplain => simp at h

theorem inRange_of_mem_parse {text : String} {s : Segment} (h : s ∈ parse text) : s.InRange := by
  unfold parse at h
  split at h
  · cases h
  · obtain ⟨part, -, hs⟩ := List.mem_flatMap.mp h
    exact inRange_of_mem_ofPart hs

/-! ## Two notations -/

/-- A name and the indices behind it. -/
structure Entry where
  name : List Char
  indices : List Nat
  bracket_notMem : '[' ∉ name
  dot_notMem : '.' ∉ name
  index_lt : ∀ i ∈ indices, i < Decimal.indexBound

namespace Entry

variable (e : Entry)

/-- One part, with the indices in brackets. -/
def bracketPart : List Char := e.name ++ (e.indices.map (Nat.toDigits 10)).flatMap bracketed

/-- A part for each index. A name that is empty is left out if there are indices. -/
def dotParts : List (List Char) :=
  if e.indices = [] then [e.name]
  else (if e.name = [] then [] else [e.name]) ++ e.indices.map (Nat.toDigits 10)

def segments : Path :=
  if e.indices = [] then [.key (String.ofList e.name)] else indexedName e.name e.indices

theorem ofPart_bracketPart : ofPart e.bracketPart = e.segments := by
  by_cases hnil : e.indices = []
  · rw [bracketPart, segments, if_pos hnil, hnil, List.map_nil, List.flatMap_nil, List.append_nil,
      ofPart_of_not_mem e.bracket_notMem]
  · rw [segments, if_neg hnil]
    refine ofPart_of_isIndexed ⟨e.bracket_notMem, e.indices.map (Nat.toDigits 10), ?_, rfl, ?_⟩
    · exact mt List.map_eq_nil_iff.mp hnil
    · rw [List.forall₂_map_left_iff, List.forall₂_same]
      intro i hi
      rw [Decimal.trim_toDigits]
      exact Decimal.writesIndex_toDigits (e.index_lt i hi)

theorem mem_dotParts {part : List Char} (h : part ∈ e.dotParts) :
    part = e.name ∨ ∃ i ∈ e.indices, part = Nat.toDigits 10 i := by
  unfold dotParts at h
  split at h
  · exact .inl (List.mem_singleton.mp h)
  · rcases List.mem_append.mp h with hname | hdigits
    · split at hname
      · cases hname
      · exact .inl (List.mem_singleton.mp hname)
    · obtain ⟨i, hi, rfl⟩ := List.mem_map.mp hdigits
      exact .inr ⟨i, hi, rfl⟩

theorem notMem_dotParts {c : Char} (hname : c ∉ e.name) (hc : c.isDigit = false)
    {part : List Char} (h : part ∈ e.dotParts) : c ∉ part := by
  rcases e.mem_dotParts h with rfl | ⟨i, -, rfl⟩
  · exact hname
  · exact Decimal.not_mem_toDigits hc

theorem dot_notMem_bracketPart : '.' ∉ e.bracketPart := by
  intro h
  rcases List.mem_append.mp h with hname | hindices
  · exact e.dot_notMem hname
  · obtain ⟨digits, hdigits, hmem⟩ := List.mem_flatMap.mp hindices
    obtain ⟨i, -, rfl⟩ := List.mem_map.mp hdigits
    have hdot : '.' ∉ Nat.toDigits 10 i := Decimal.not_mem_toDigits rfl
    simp [bracketed, hdot] at hmem

/-- The parts between dots are the segments of the part with brackets, each of them as a key. -/
theorem flatMap_dotParts : e.dotParts.flatMap ofPart = e.segments.map Segment.named := by
  -- Between dots there is no bracket, so each part is read as a key.
  have hkeys : e.dotParts.flatMap ofPart =
      e.dotParts.map fun part => .key (String.ofList part) := by
    rw [← List.flatMap_pure_eq_map]
    exact List.flatMap_congr fun part hpart =>
      ofPart_of_not_mem (e.notMem_dotParts e.bracket_notMem rfl hpart)
  rw [hkeys, dotParts, segments, indexedName]
  split
  · rfl
  · cases e.name with
    | nil => simp [Segment.named, Segment.toKey]
    | cons c name => simp [Segment.named, Segment.toKey]

theorem dotParts_ne_nil : e.dotParts ≠ [] := by
  unfold dotParts
  split <;> simp_all

theorem dotParts_eq_iff : e.dotParts = [[]] ↔ e.bracketPart = [] := by
  unfold dotParts bracketPart
  cases e.indices with
  | nil => simp
  | cons i rest =>
      -- The digits of the first index are not empty.
      have hdigits : Nat.toDigits 10 i ≠ [] := Nat.toDigits_ne_nil
      by_cases hname : e.name = [] <;> simp [hname, hdigits, bracketed]

end Entry

def bracketText (entries : List Entry) : String := joined (entries.map Entry.bracketPart)

def dotText (entries : List Entry) : String := joined (entries.flatMap Entry.dotParts)

theorem joined_eq_empty_iff {parts : List (List Char)} :
    joined parts = "" ↔ parts = [] ∨ parts = [[]] := by
  rw [joined, ← String.toList_inj, String.toList_ofList, String.toList_empty]
  cases parts with
  | nil => simp
  | cons part rest =>
      cases rest with
      | nil => simp
      | cons next others => simp [List.intercalate_cons_cons]

theorem bracketText_eq_empty_iff (entries : List Entry) :
    bracketText entries = "" ↔ dotText entries = "" := by
  rw [bracketText, dotText, joined_eq_empty_iff, joined_eq_empty_iff]
  cases entries with
  | nil => simp
  | cons e rest =>
      have hrest : rest.flatMap Entry.dotParts = [] ↔ rest = [] := by
        cases rest with
        | nil => simp
        | cons next others => simp [next.dotParts_ne_nil]
      -- No entry is without parts, so only one of an empty name alone leaves the text empty.
      simp [List.append_eq_singleton_iff, e.dotParts_ne_nil, e.dotParts_eq_iff, hrest]

/-- The path with dots is the path with brackets, its indices as keys. -/
theorem parse_dotText (entries : List Entry) :
    parse (dotText entries) = (parse (bracketText entries)).map Segment.named := by
  by_cases hempty : bracketText entries = ""
  · rw [hempty, (bracketText_eq_empty_iff entries).mp hempty]
    rfl
  · have hdots : ∀ part ∈ entries.flatMap Entry.dotParts, '.' ∉ part := by
      intro part hpart
      obtain ⟨e, -, hpart⟩ := List.mem_flatMap.mp hpart
      exact e.notMem_dotParts e.dot_notMem rfl hpart
    have hbrackets : ∀ part ∈ entries.map Entry.bracketPart, '.' ∉ part := by
      intro part hpart
      obtain ⟨e, -, rfl⟩ := List.mem_map.mp hpart
      exact e.dot_notMem_bracketPart
    rw [dotText, bracketText, parse_joined (mt (bracketText_eq_empty_iff entries).mpr hempty) hdots,
      parse_joined hempty hbrackets, List.flatMap_assoc, List.flatMap_map, List.map_flatMap]
    refine List.flatMap_congr fun e _ => ?_
    rw [e.flatMap_dotParts, e.ofPart_bracketPart]

end Path

/-- **A path is read exactly.** Its segments are those of its parts, and reading the parts by
positions takes no slice that does not exist. Indices in brackets lead to what they lead to as parts
between dots. -/
theorem path_read_exactly (text : String) (root : Json) (entries : List Path.Entry) :
    (∀ p, Path.parse text = p ↔ Path.Reads text p) ∧
    Path.parseSlices? text = some (Path.parse text) ∧
    root.get? (Path.bracketText entries) = root.get? (Path.dotText entries) := by
  refine ⟨fun _ => Path.parse_eq_iff, Path.parseSlices?_eq text, ?_⟩
  rw [Json.get?, Json.get?, Path.parse_dotText]
  exact (Json.getAt?_map_named (fun _ => Path.inRange_of_mem_parse) root).symm

example : let entries : List Path.Entry :=
      [⟨['a'], [0, 12], by decide, by decide, by decide⟩,
        ⟨['b'], [], by decide, by decide, by decide⟩]
    Path.bracketText entries = "a[0][12].b" ∧ Path.dotText entries = "a.0.12.b" := by
  decide

end StepPipeline
