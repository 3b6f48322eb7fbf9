/-!
# Placeholders

A template is a text with placeholders: `${path}`, where the path is not empty and holds no
closing brace. `pieces` cuts a text into its placeholders and the characters between them, from
left to right; whatever opens like a placeholder and is none stays text.
-/

namespace StepPipeline.Template

/-- A character of a text outside placeholders, or the path inside one. -/
inductive Piece where
  | char (c : Char)
  | slot (path : List Char)
  deriving DecidableEq

/-- What closes a placeholder. -/
def closing : Char := '\x7d'

/-- What opens a placeholder, behind the dollar sign. -/
def opening : Char := '\x7b'

def inside (cs : List Char) : List Char := cs.takeWhile (· ≠ closing)

def outside (cs : List Char) : List Char := cs.dropWhile (· ≠ closing)

theorem length_outside_le (cs : List Char) : (outside cs).length ≤ cs.length :=
  (List.dropWhile_suffix _).length_le

/-- The placeholder at the front of a text that follows an opening brace: its path, and the text
behind it. -/
def slotAt? (cs : List Char) : Option (List Char × List Char) :=
  match inside cs, outside cs with
  | [], _ => none
  | _, [] => none
  | c :: path, _ :: rest => some (c :: path, rest)

theorem length_of_slotAt? {cs path rest : List Char} (h : slotAt? cs = some (path, rest)) :
    rest.length < cs.length := by
  have := length_outside_le cs
  unfold slotAt? at h
  split at h
  · simp at h
  · simp at h
  · next h₂ =>
    simp only [Option.some.injEq, Prod.mk.injEq] at h
    rw [h₂, List.length_cons] at this
    rw [← h.2]; omega

def pieces : List Char → List Piece
  | [] => []
  | c :: rest =>
    match c, rest with
    | '$', '\x7b' :: inner =>
      match h : slotAt? inner with
      | some (path, after) =>
        have := length_of_slotAt? h
        .slot path :: pieces after
      | none => .char '$' :: pieces ('\x7b' :: inner)
    | c, rest => .char c :: pieces rest
termination_by cs => cs.length
decreasing_by
  all_goals simp only [List.length_cons]
  all_goals omega

def written (path : List Char) : List Char := '$' :: opening :: path ++ [closing]

def Piece.text : Piece → List Char
  | char c => [c]
  | slot path => written path

def Piece.isSlot : Piece → Bool
  | char _ => false
  | slot _ => true

/-- The path of a text that is one placeholder and nothing else. -/
def whole? (text : String) : Option String :=
  match pieces text.toList with
  | [.slot path] => some (String.ofList path)
  | _ => none

def hasSlot (text : String) : Bool := (pieces text.toList).any Piece.isSlot

theorem inside_append_outside (cs : List Char) : inside cs ++ outside cs = cs :=
  List.takeWhile_append_dropWhile

theorem eq_of_slotAt? {cs path rest : List Char} (h : slotAt? cs = some (path, rest)) :
    cs = path ++ closing :: rest := by
  have hsplit := inside_append_outside cs
  unfold slotAt? at h
  split at h
  · simp at h
  · simp at h
  · next c path' d rest' h₁ h₂ =>
    simp only [Option.some.injEq, Prod.mk.injEq] at h
    have hd : d = closing := by
      have := List.head?_dropWhile_not (fun c => decide (c ≠ closing)) cs
      rw [show cs.dropWhile (fun c => decide (c ≠ closing)) = outside cs from rfl, h₂] at this
      simpa using this
    rw [← hsplit, h₁, h₂, h.1, h.2, hd]

/-- Cutting a text into pieces loses nothing. -/
theorem flatMap_text_pieces (cs : List Char) : (pieces cs).flatMap Piece.text = cs := by
  fun_induction pieces cs with
  | case1 => rfl
  | case2 inner path after h _ ih =>
    simp [Piece.text, written, ih, eq_of_slotAt? h, opening]
  | case3 inner _ ih => simp [Piece.text, ih]
  | case4 c rest _ ih => simp [Piece.text, ih]

end StepPipeline.Template
