/-!
# Ranges of characters

The tables of character properties are texts of hexadecimal ranges such as `41-5A 61-7A`, in
increasing order. `Ranges.contains` looks a character up by halving. Unions, complements and what
follows from them give ranges that are again in order and apart from each other.
-/

namespace StepPipeline.Unicode

/-- The number that upper case hexadecimal digits write. -/
def readHex (digits : List Char) : Nat :=
  digits.foldl (fun n c => 16 * n + (if c.isDigit then c.toNat - 48 else c.toNat - 55)) 0

def maxCodePoint : Nat := 0x10FFFF

/-- Ranges of code points, both ends included, in increasing order. -/
structure Ranges where
  pairs : Array (Nat × Nat)
  deriving BEq

namespace Ranges

/-- A range, or a single scalar value. -/
def readPair (text : List Char) : Nat × Nat :=
  match text.splitOn '-' with
  | [low, high] => (readHex low, readHex high)
  | _ => (readHex text, readHex text)

/-- The ranges that the lines of a table write. -/
def read (table : List String) : Ranges :=
  ⟨(table.flatMap fun line => (line.toList.splitOn ' ').map readPair).toArray⟩

/-- Look `n` up among the ranges at positions from `low` on and below `high`. -/
def search (pairs : Array (Nat × Nat)) (n low high : Nat) : Bool :=
  if low < high then
    let middle := low + (high - low) / 2
    match pairs[middle]? with
    | none => false
    | some (first, last) =>
      if n < first then search pairs n low middle
      else if last < n then search pairs n (middle + 1) high
      else true
  else false
termination_by high - low

def contains (r : Ranges) (c : Char) : Bool := search r.pairs c.toNat 0 r.pairs.size

/-! ### Sets of characters -/

/-- The ranges of a list in order of their starts, where those that overlap or touch are made one;
`low` and `high` bound the one that is still growing. -/
def joinFrom (low high : Nat) : List (Nat × Nat) → List (Nat × Nat)
  | [] => [(low, high)]
  | (first, last) :: rest =>
    if first ≤ high + 1 then joinFrom low (max high last) rest
    else (low, high) :: joinFrom first last rest

def join : List (Nat × Nat) → List (Nat × Nat)
  | [] => []
  | (low, high) :: rest => joinFrom low high rest

/-- What lies between the ranges of a list, from `start` on. -/
def gaps (start : Nat) : List (Nat × Nat) → List (Nat × Nat)
  | [] => if start ≤ maxCodePoint then [(start, maxCodePoint)] else []
  | (low, high) :: rest =>
    if start < low then (start, low - 1) :: gaps (high + 1) rest else gaps (high + 1) rest

def empty : Ranges := ⟨#[]⟩

def between (low high : Nat) : Ranges := ⟨#[(low, high)]⟩

/-- Ranges in any order. -/
def ofList (pairs : List (Nat × Nat)) : Ranges :=
  ⟨(join (pairs.mergeSort fun p q => p.1 ≤ q.1)).toArray⟩

def union (a b : Ranges) : Ranges :=
  ⟨(join (a.pairs.toList.merge b.pairs.toList fun p q => p.1 ≤ q.1)).toArray⟩

instance : Union Ranges := ⟨union⟩

def unions (sets : List Ranges) : Ranges := sets.foldr union empty

def compl (a : Ranges) : Ranges := ⟨(gaps 0 a.pairs.toList).toArray⟩

def inter (a b : Ranges) : Ranges := (a.compl ∪ b.compl).compl

instance : Inter Ranges := ⟨inter⟩

def diff (a b : Ranges) : Ranges := (a.compl ∪ b).compl

instance : SDiff Ranges := ⟨diff⟩

end Ranges
end StepPipeline.Unicode
