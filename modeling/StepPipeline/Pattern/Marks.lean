import StepPipeline.Pattern.Node

/-!
# Matching

A pattern is matched by marks on its tree: a character of the pattern is marked when it may be the
one that was read last. One step reads one character of the text and moves all marks on, so a text
is read once, from left to right, and the work for a character is bounded by the size of the
pattern and of its marks, whatever the pattern is.

A repetition keeps the marks of its turns apart, by what is still required and still allowed after
each; turns that agree in this are one turn with the marks of both.
-/

namespace StepPipeline.Pattern

/-- What a repetition still requires and still allows after a turn. -/
structure Turn where
  least : Nat
  /-- No bound when missing. -/
  most : Option Nat
  deriving DecidableEq

namespace Turn

def allowsMore (t : Turn) : Bool := t.most != some 0

/-- What is left after one more turn. Where the body matches nothing at all, turns that match
nothing make up for those still required. -/
def next (skippable : Bool) (t : Turn) : Turn :=
  ⟨if skippable then 0 else t.least - 1, t.most.map (· - 1)⟩

/-- The order of turns: the later of two turns, after which less is left, goes first. -/
def before (s t : Turn) : Bool :=
  s.most.getD 0 < t.most.getD 0 || (s.most == t.most && s.least < t.least)

/-- Join two lists in order; what belongs to one turn is joined by `join`. -/
def merge {α : Type} (join : α → α → α) : List (Turn × α) → List (Turn × α) → List (Turn × α)
  | [], ys => ys
  | xs, [] => xs
  | (s, x) :: xs, (t, y) :: ys =>
    if s = t then (s, join x y) :: merge join xs ys
    else if s.before t then (s, x) :: merge join xs ((t, y) :: ys)
    else (t, y) :: merge join ((s, x) :: xs) ys
termination_by xs ys => xs.length + ys.length

/-- The turns that go on behind the character. Each turn comes with what a step made of it. -/
def going {α : Type} (moved : List (Turn × Option α × Bool)) : List (Turn × α) :=
  moved.filterMap fun e => e.2.1.map fun m => (e.1, m)

def ended {α : Type} (moved : List (Turn × Option α × Bool)) : List Turn :=
  (moved.filter fun e => e.2.2).map (·.1)

/-- The turns that begin with the character where those in `ready` are over; all have the marks of a
body that begins there. -/
def begun {α : Type} (skippable : Bool) (ready : List Turn) : Option α → List (Turn × α)
  | some m => ((ready.filter allowsMore).map (next skippable)).eraseReps.map fun t => (t, m)
  | none => []

end Turn

/-- The marks in a part of a pattern that has some. -/
def Marks : Node → Type
  | .empty => Empty
  | .char _ => Unit
  | .look _ => Empty
  | .group body => Marks body
  | .seq a b => Option (Marks a) × Option (Marks b)
  | .alt a b => Option (Marks a) × Option (Marks b)
  | .rep body _ _ => List (Turn × Marks body)

namespace Marks

def union : (n : Node) → Marks n → Marks n → Marks n
  | .empty, m, _ => m
  | .char _, m, _ => m
  | .look _, m, _ => m
  | .group body, m, m' => union body m m'
  | .seq a b, m, m' => (Option.merge (union a) m.1 m'.1, Option.merge (union b) m.2 m'.2)
  | .alt a b, m, m' => (Option.merge (union a) m.1 m'.1, Option.merge (union b) m.2 m'.2)
  | .rep body _ _, m, m' => Turn.merge (union body) m m'

def pair? {α β : Type} : Option α → Option β → Option (Option α × Option β)
  | none, none => none
  | m, m' => some (m, m')

def first? {α β : Type} (m : Option (Option α × Option β)) : Option α := m.bind (·.1)

def second? {α β : Type} (m : Option (Option α × Option β)) : Option β := m.bind (·.2)

def turns? {α : Type} (ts : List (Turn × α)) : Option (List (Turn × α)) :=
  if ts.isEmpty then none else some ts

/-- Read the character behind a place: the marks that are then in the part, and whether its end is
reached at the place itself, before the character is read. The part may begin at the place if
`enter` says so. -/
def step (p : Place) : (n : Node) → Option (Marks n) → (enter : Bool) → Option (Marks n) × Bool
  | .empty, _, enter => (none, enter)
  | .char set, m, enter => (if enter && p.behind.any set.contains then some () else none, m.isSome)
  | .look l, _, enter => (none, enter && l.holds p)
  | .group body, m, enter => step p body m enter
  | .seq a b, m, enter =>
    if m.isNone && !enter then (none, false)
    else
      let (m₁, middle) := step p a (first? m) enter
      let (m₂, final) := step p b (second? m) middle
      (pair? m₁ m₂, final)
  | .alt a b, m, enter =>
    if m.isNone && !enter then (none, false)
    else
      let (m₁, final₁) := step p a (first? m) enter
      let (m₂, final₂) := step p b (second? m) enter
      (pair? m₁ m₂, final₁ || final₂)
  | .rep body least most, m, enter =>
    if m.isNone && !enter then (none, false)
    else
      let turns : List (Turn × Marks body) := m.getD []
      let moved := turns.map fun e => (e.1, step p body (some e.2) false)
      let ready := Turn.ended moved ++ (if enter then [⟨least, most⟩] else [])
      let (fresh, skippable) := if ready.isEmpty then (none, false) else step p body none true
      (turns? (Turn.merge (union body) (Turn.going moved) (Turn.begun skippable ready fresh)),
        ready.any fun t => t.least == 0 || skippable)

end Marks

namespace Node

/-- Whether a match ends here or later, when `marks` are the marks of what was read and a match may
begin at any place from here on. -/
def search (root : Node) (before : Option Char) (marks : Option (Marks root)) : List Char → Bool
  | [] => (Marks.step ⟨before, none⟩ root marks true).2
  | c :: rest =>
    let (marks, found) := Marks.step ⟨before, some c⟩ root marks true
    found || search root (some c) marks rest

def isMatch (root : Node) (text : String) : Bool := search root none none text.toList

end Node
end StepPipeline.Pattern
