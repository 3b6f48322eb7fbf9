import Std.Data.HashSet
import StepPipeline.Pattern.Bytes
import StepPipeline.Pattern.Node

/-!
# The room that a pattern takes

A pattern is laid out as a machine that reads bytes, once from the front and once from the back, and
repetitions are written out. The machine has states of 32 bytes; each way that leaves a state with
several ways takes four bytes more, or eight where it reads a range of bytes. The size of a pattern
is that of the larger machine. Nothing is built here: the size of a part follows from the sizes of
its own parts.
-/

namespace StepPipeline.Pattern

/-- From which end the text is read. -/
inductive Direction where
  | forward
  | backward

/-- What the size of a pattern depends on, for one part of it. -/
structure Layout where
  size : Nat
  /-- The bytes, if the part matches a single text. -/
  literal : Option (List Nat) := none
  /-- The characters, if the part is a single character. -/
  set : Option Unicode.Ranges := none
  /-- Nothing is left of the part. -/
  dropped : Bool := false
  /-- The part may match the empty text, or nothing at all. -/
  mayBeEmpty : Bool := false
  /-- The part matches nothing but the empty text. -/
  onlyEmpty : Bool := false

namespace Layout

def state : Nat := 32

def total (sizes : List Nat) : Nat := sizes.foldl (· + ·) 0

/-- The room of a way out of a state. -/
def way : Nat := 4

/-- The room of a way out of a state that reads a range of bytes. -/
def reading : Nat := 8

/-- An empty pattern, or what is left out of a longer one. -/
def empty : Layout := ⟨state, none, none, true, true, true⟩

def look : Layout := { size := state, mayBeEmpty := true, onlyEmpty := true }

def ofBytes (bytes : List Nat) : Layout := { size := state * bytes.length, literal := some bytes }

/-! ### One character -/

/-- The runs gathered by their first places, which are in order. -/
def branches (runs : List Bytes.Run) : List (List Bytes.Run) :=
  runs.splitBy fun r s => r.head? == s.head?

/-- What may still follow at each place of the runs, which are at most `k` bytes long. -/
def continuations : Nat → List Bytes.Run → List (List Bytes.Run)
  | 0, _ => []
  | k + 1, runs =>
    runs :: ((branches runs).map (·.map List.tail)).flatMap fun rest =>
      if rest.all List.isEmpty then [] else continuations k rest

/-- Forward, places with the same continuations are one state. -/
def forwardSize (runs : List Bytes.Run) : Nat :=
  let states := (Std.HashSet.ofList (continuations 4 runs)).toList
  state + total (states.map fun s => state + reading * (branches s).length)

/-- Backward, the runs share their first bytes, which are read last. -/
def backwardSize (runs : List Bytes.Run) : Nat :=
  let prefixes := runs.flatMap fun r => (List.range r.length).map fun n => r.take (n + 1)
  2 * state + way * runs.length + state * (Std.HashSet.ofList prefixes).size

def several (d : Direction) (r : Unicode.Ranges) : Nat :=
  if r.pairs.all fun p => p.2 < 128 then 2 * state + reading * r.pairs.size
  else match d with
    | .forward => forwardSize (Bytes.ofRanges r)
    | .backward => backwardSize (Bytes.ofRanges r)

/-- One character of a set; no pattern matches where the set is empty. -/
def ofRanges (d : Direction) (r : Unicode.Ranges) : Layout :=
  match r.pairs.toList with
  | [] => { size := 2 * state, mayBeEmpty := true }
  | (low, high) :: rest =>
    if rest.isEmpty ∧ low = high then { ofBytes (Bytes.ofScalar low) with set := some r }
    else { size := several d r, set := some r }

/-! ### Parts of parts -/

/-- One part after another. What is dropped takes no room beside another part. -/
def seq (a b : Layout) : Layout :=
  if a.dropped then b
  else if b.dropped then a
  else {
    size := a.size + b.size
    literal := a.literal.bind fun x => b.literal.map (x ++ ·)
    mayBeEmpty := a.mayBeEmpty && b.mayBeEmpty
    onlyEmpty := a.onlyEmpty && b.onlyEmpty }

/-- A group is marked at both ends; the marks are left out where the text is read backward. -/
def group (d : Direction) (a : Layout) : Layout :=
  { a with
    size := match d with
      | .forward => a.size + 2 * state
      | .backward => a.size
    literal := none
    set := none
    dropped := false }

def rep (a : Layout) (least : Nat) (most : Option Nat) : Layout :=
  let least := if a.onlyEmpty then min least 1 else least
  let most := if a.onlyEmpty then some (min (most.getD 1) 1) else most
  if most = some 0 then empty
  else if least = 1 ∧ most = some 1 then a
  else
    let choice := state + 2 * way
    { size := match most with
        | none =>
          if least = 0 then if a.mayBeEmpty then a.size + 2 * choice + state else a.size + choice
          else least * a.size + choice
        | some most =>
          if least = most then least * a.size
          else if least = 0 ∧ most = 1 then a.size + choice + state
          else
            let required := if least = 0 then state else least * a.size
            required + state + (most - least) * (choice + a.size)
      mayBeEmpty := a.mayBeEmpty || least = 0
      onlyEmpty := a.onlyEmpty }

/-- The room of texts to choose from, with what they begin with in common; `k` is more than the
length of each. A text that ends where another goes on divides those before it from those after. -/
def sharedSize : Nat → List (List Nat) → Nat
  | 0, _ => 0
  | k + 1, texts =>
    let chunks := texts.splitBy fun x y => !x.isEmpty && !y.isEmpty
    let sizes := chunks.map fun chunk =>
      match (chunk.filterMap List.head?).eraseDups with
      | [] => way
      | bytes =>
        let below := bytes.map fun b =>
          let rest := (chunk.filter fun t => t.head? == some b).map List.tail
          if rest.all List.isEmpty then 0 else sharedSize k rest
        way + state + (if bytes.length = 1 then 0 else reading * bytes.length) + total below
    state + total sizes

/-- A choice. Single characters become one set, if each of them is fixed or none is; texts share
what they begin with. -/
def alt (d : Direction) (choices : List Layout) : Layout :=
  match choices with
  | [] => empty
  | [a] => a
  | choices =>
    let alike := choices.all (·.literal.isSome) || choices.all (·.literal.isNone)
    match choices.mapM Layout.set, alike with
    | some sets, true => ofRanges d (Unicode.Ranges.unions sets)
    | _, _ => {
        size := match choices.mapM Layout.literal with
          | some texts =>
            let texts := match d with
              | .forward => texts
              | .backward => texts.map List.reverse
            state + sharedSize ((texts.map List.length).foldl max 0 + 1) texts
          | none => 2 * state + total (choices.map fun a => way + a.size)
        mayBeEmpty := choices.any Layout.mayBeEmpty
        onlyEmpty := choices.all Layout.onlyEmpty }

end Layout

namespace Node

/-- The layouts of the choices of a pattern, a single one if it is not a choice. -/
def layouts (d : Direction) : Node → List Layout
  | empty => [.empty]
  | char set => [.ofRanges d set.ranges]
  | look _ => [.look]
  | group a => [(Layout.alt d (layouts d a)).group d]
  | seq a b => [(Layout.alt d (layouts d a)).seq (Layout.alt d (layouts d b))]
  | alt a b => layouts d a ++ layouts d b
  | rep a least most => [(Layout.alt d (layouts d a)).rep least most]

/-- The room that the machine for one direction takes: the pattern, what finds its start, and its
end. -/
def sizeToward (d : Direction) (n : Node) : Nat :=
  let whole := (Layout.alt d (n.layouts d)).group d
  whole.size + 4 * Layout.state + 2 * Layout.way + Layout.reading

def size (n : Node) : Nat := max (n.sizeToward .forward) (n.sizeToward .backward)

end Node
end StepPipeline.Pattern
