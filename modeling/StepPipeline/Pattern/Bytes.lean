import StepPipeline.Unicode.Ranges

/-!
# Characters as bytes

A range of scalar values, written out in UTF-8, is a list of runs: one range of bytes for each
place. The runs of a range follow each other in order, and no two of them hold the same bytes.
-/

namespace StepPipeline.Pattern.Bytes

/-- The least and the greatest byte at each place. -/
abbrev Run := List (Nat × Nat)

/-- Cut the numbers from `low` to `high`, of `k + 1` digits to the base 64, into runs of digits. -/
def digitRuns : Nat → Nat → Nat → List Run
  | 0, low, high => [[(low, high)]]
  | k + 1, low, high =>
    let unit := Nat.pow 64 (k + 1)
    let first := low / unit
    let last := high / unit
    if first = last then (digitRuns k (low % unit) (high % unit)).map ((first, first) :: ·)
    else
      let whole := fun (low high : Nat) =>
        if low ≤ high then [(low, high) :: List.replicate (k + 1) (0, 63)] else []
      let front := (digitRuns k (low % unit) (unit - 1)).map ((first, first) :: ·)
      let back := (digitRuns k 0 (high % unit)).map ((last, last) :: ·)
      match decide (low % unit = 0), decide (high % unit = unit - 1) with
      | true, true => whole first last
      | true, false => whole first (last - 1) ++ back
      | false, true => front ++ whole (first + 1) last
      | false, false => front ++ whole (first + 1) (last - 1) ++ back

/-- The scalar values of one length: how many bytes follow the first, the mark on the first byte,
the least and the greatest. Between the two ranges of three bytes lie the surrogates. -/
def lengths : List (Nat × Nat × Nat × Nat) := [
  (0, 0, 0, 0x7F), (1, 0xC0, 0x80, 0x7FF), (2, 0xE0, 0x800, 0xD7FF), (2, 0xE0, 0xE000, 0xFFFF),
  (3, 0xF0, 0x10000, 0x10FFFF)]

/-- Digits with the marks that make them bytes. -/
def mark (lead : Nat) : Run → Run
  | [] => []
  | (low, high) :: rest =>
    (lead + low, lead + high) :: rest.map fun d => (0x80 + d.1, 0x80 + d.2)

def runs (low high : Nat) : List Run :=
  lengths.flatMap fun (more, lead, least, greatest) =>
    let low := max low least
    let high := min high greatest
    if low ≤ high then (digitRuns more low high).map (mark lead) else []

def ofRanges (r : Unicode.Ranges) : List Run := r.pairs.toList.flatMap fun p => runs p.1 p.2

def ofScalar (n : Nat) : List Nat := ((runs n n).headD []).map Prod.fst

end StepPipeline.Pattern.Bytes
