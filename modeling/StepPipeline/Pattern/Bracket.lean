import StepPipeline.Pattern.Escape

/-!
# Bracketed classes

A class such as `[a-z&&[^aeiou]]`: characters, ranges, escapes, named classes and further
brackets, joined by `&&`, `--` and `~~` from left to right. The reader keeps the brackets that are
open on a stack; each turn of it consumes some of the text. It also counts how deep the class nests:
each bracket, each joint and each row of several items is one step deeper than what it holds.
-/

namespace StepPipeline.Pattern

inductive Join where
  | inter
  | diff
  | symmDiff

def Join.apply : Join → CharSet → CharSet → CharSet
  | inter, a, b => .inter a b
  | diff, a, b => .diff a b
  | symmDiff, a, b => .symmDiff a b

/-- A set and how deep what writes it nests. -/
structure Nested where
  set : CharSet
  depth : Nat := 0

def Nested.row (items : List Nested) : Nested :=
  ⟨.unions (items.map Nested.set), match items with
    | [] => 0
    | [item] => item.depth
    | items => items.foldl (fun d item => max d item.depth) 0 + 1⟩

/-- A bracket that is still being read. -/
structure OpenBracket where
  negated : Bool
  /-- What is to the left of the last joint. -/
  left : Option (Join × Nested) := none
  /-- The items since then, last first. -/
  items : List Nested := []

namespace OpenBracket

def add (b : OpenBracket) (item : Nested) : OpenBracket := { b with items := item :: b.items }

/-- What has been read so far, without the negation. -/
def joined (f : Flags) (b : OpenBracket) : Nested :=
  let right := Nested.row b.items
  match b.left with
  | none => right
  | some (join, left) =>
    ⟨join.apply (.foldIf f.ignoreCase left.set) (.foldIf f.ignoreCase right.set),
      max left.depth right.depth + 1⟩

/-- Begin the right side of a joint. -/
def joinWith (f : Flags) (b : OpenBracket) (join : Join) : OpenBracket :=
  { b with left := some (join, b.joined f), items := [] }

def close (f : Flags) (b : OpenBracket) : Nested :=
  let inside := b.joined f
  ⟨.complIf b.negated (.foldIf f.ignoreCase inside.set), inside.depth + 1⟩

end OpenBracket

/-- Refuse a set that, without Unicode, is not made of ASCII characters alone. -/
def Nested.checked (f : Flags) (item : Nested) : Except Error Nested :=
  (f.checked item.set).map fun set => { item with set := set }

/-- Take hyphens at the front as items. -/
def hyphens (f : Flags) (b : OpenBracket) (cs : List Char) : OpenBracket × List Char :=
  match cs with
  | '-' :: rest => hyphens f (b.add ⟨.single '-', 0⟩) (f.skip rest)
  | cs => (b, cs)
termination_by cs.length
decreasing_by
  have := f.length_skip_le rest
  simp only [List.length_cons]
  omega

/-- Enter the bracket whose inside begins here: a caret negates it, hyphens and then, if there are
none, a closing bracket at the front are items. -/
def enter (f : Flags) (cs : List Char) : OpenBracket × List Char :=
  let (negated, cs) := match f.skip cs with
    | '^' :: rest => (true, f.skip rest)
    | cs => (false, cs)
  let start : OpenBracket := { negated := negated }
  match cs with
  | ']' :: rest => (start.add ⟨.single ']', 0⟩, f.skip rest)
  | cs => hyphens f start cs

/-- The named class `[:name:]` at the front, behind its opening bracket: whether it is negated, its
characters and the text behind it. -/
def named? (cs : List Char) : Option (Bool × CharSet × List Char) :=
  match cs with
  | ':' :: rest =>
    let (negated, rest) := match rest with
      | '^' :: rest => (true, rest)
      | _ => (false, rest)
    let name := rest.takeWhile (· ≠ ':')
    match rest.drop name.length with
    | ':' :: ']' :: rest =>
      (CharSet.ascii? (String.ofList name)).map fun set => (negated, set, rest)
    | _ => none
  | _ => none

def bracketItem (f : Flags) : List Char → Except Error (Primitive × List Char)
  | [] => .error .unclosedBracket
  | '\\' :: rest => escape f rest
  | c :: rest => .ok (.literal c, rest)

/-- The set of an item that is not the start of a range. -/
def Primitive.asItem (f : Flags) : Primitive → Except Error CharSet
  | literal c => f.checkedChar c
  | .class set => f.checked set
  | look _ => .error .badEscape

/-- Whether a hyphen in front of the text makes a range: not when a closing bracket or another
hyphen follows. -/
def makesRange (f : Flags) (cs : List Char) : Bool :=
  match cs with
  | '-' :: rest => f.peek? rest != some ']' && f.peek? rest != some '-'
  | _ => false

def itemOrRange (f : Flags) (cs : List Char) : Except Error (CharSet × List Char) := do
  let (first, rest) ← bracketItem f cs
  let rest := f.skip rest
  if rest.isEmpty then throw .unclosedBracket
  if makesRange f rest then
    let (second, rest) ← bracketItem f (f.skip (rest.drop 1))
    match first, second with
    | .literal low, .literal high =>
      if high < low then throw .badRange
      let _ ← f.checkedChar high
      return (.between low high, rest)
    | _, _ => throw .badRange
  else return (← first.asItem f, rest)

/-- After one item of a bracket: all brackets are closed, or the innermost open one and those around
it. -/
inductive BracketStep where
  | done (bracket : Nested) (rest : List Char)
  | more (inner : OpenBracket) (outer : List OpenBracket) (rest : List Char)

/-- One turn: an item, a joint, an opening or a closing bracket. A named class is closed under case
before it is negated, as a bracket is. -/
def bracketStep (f : Flags) (inner : OpenBracket) (outer : List OpenBracket) (cs : List Char) :
    Except Error BracketStep :=
  match f.skip cs with
  | [] => .error .unclosedBracket
  | '[' :: rest =>
    match named? rest with
    | some (negated, set, rest) =>
      (f.checked (.complIf negated (.foldIf f.ignoreCase set))).map fun set =>
        .more (inner.add ⟨set, 0⟩) outer rest
    | none =>
      let (next, rest) := enter f rest
      .ok (.more next (inner :: outer) rest)
  | ']' :: rest =>
    ((inner.close f).checked f).map fun bracket =>
      match outer with
      | [] => .done bracket rest
      | next :: outer => .more (next.add bracket) outer rest
  | '&' :: '&' :: rest => .ok (.more (inner.joinWith f .inter) outer rest)
  | '-' :: '-' :: rest => .ok (.more (inner.joinWith f .diff) outer rest)
  | '~' :: '~' :: rest => .ok (.more (inner.joinWith f .symmDiff) outer rest)
  | cs => (itemOrRange f cs).map fun (set, rest) => .more (inner.add ⟨set, 0⟩) outer rest

/-- Read on inside brackets, up to the end of the outermost. -/
def insideBrackets (f : Flags) (inner : OpenBracket) (outer : List OpenBracket) (cs : List Char) :
    Except Error (Nested × List Char) :=
  match bracketStep f inner outer cs with
  | .error e => .error e
  | .ok (.done bracket rest) => .ok (bracket, rest)
  | .ok (.more inner outer rest) =>
    if rest.length < cs.length then insideBrackets f inner outer rest
    else .error .unclosedBracket
termination_by cs.length

/-- The bracketed class whose inside begins here, and the text behind it. -/
def bracket (f : Flags) (cs : List Char) : Except Error (Nested × List Char) :=
  let (start, rest) := enter f cs
  insideBrackets f start [] rest

end StepPipeline.Pattern
