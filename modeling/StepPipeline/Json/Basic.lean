import StepPipeline.Json.Number
import StepPipeline.Table

/-!
# JSON values

The values that steps consume and produce. A record is a table from names to values; a value is
*canonical* when every record in it is sorted, and all readers of this library yield canonical
values.
-/

namespace StepPipeline

/-- Values of JSON. A list of fields may name a field twice or be out of order; `Canonical` excludes
both. -/
inductive Json where
  | null
  | bool (value : Bool)
  | num (value : Number)
  | str (value : String)
  | arr (items : List Json)
  | obj (fields : List (String × Json))
  deriving Inhabited

/-- A JSON object: the shape of what steps consume and produce. -/
abbrev Record := Table Json

namespace Json

/-- The value of an entry is smaller than the list that holds the entry. -/
theorem sizeOf_lt_of_mem {e : String × Json} {fields : List (String × Json)} (h : e ∈ fields) :
    sizeOf e.2 < sizeOf fields := by
  have h₁ := List.sizeOf_lt_of_mem h
  have h₂ : sizeOf e = 1 + sizeOf e.1 + sizeOf e.2 := by cases e; simp
  omega

def nat (n : Nat) : Json := .num (.int n)

def asStr? : Json → Option String
  | .str s => some s
  | _ => none

def asRecord? : Json → Option Record
  | .obj fields => some fields
  | _ => none

def asItems? : Json → Option (List Json)
  | .arr items => some items
  | _ => none

/-- The fields of an object; any other value counts as the empty record. -/
def toRecord (v : Json) : Record := v.asRecord?.getD []

/-- The value as an index, when it is a number that can be one. -/
def toIndex? : Json → Option Nat
  | .num n => n.toIndex?
  | _ => none

/-- An optional value, with `null` for none. -/
def ofOption : Option Json → Json
  | some v => v
  | none => .null

/-- Whether a value counts as true: `null`, `false`, zero and the empty text do not. -/
def truthy : Json → Bool
  | .null => false
  | .bool b => b
  | .num n => let x := n.toFloat; !(x == 0) && !x.isNaN
  | .str s => s ≠ ""
  | .arr _ => true
  | .obj _ => true

mutual

/-- Whether two values are the same: equal part by part, an integer never the same as a float. -/
def same : Json → Json → Bool
  | .null, .null => true
  | .bool a, .bool b => a == b
  | .num a, .num b => a.same b
  | .str a, .str b => a == b
  | .arr xs, .arr ys => sameItems xs ys
  | .obj xs, .obj ys => sameFields xs ys
  | _, _ => false

def sameItems : List Json → List Json → Bool
  | [], [] => true
  | x :: xs, y :: ys => same x y && sameItems xs ys
  | _, _ => false

def sameFields : List (String × Json) → List (String × Json) → Bool
  | [], [] => true
  | (j, x) :: xs, (k, y) :: ys => j == k && same x y && sameFields xs ys
  | _, _ => false

end

mutual

/-- Every record in the value is sorted. -/
def Canonical : Json → Prop
  | .arr items => CanonicalItems items
  | .obj fields => Table.Sorted fields ∧ CanonicalFields fields
  | _ => True

def CanonicalItems : List Json → Prop
  | [] => True
  | x :: xs => Canonical x ∧ CanonicalItems xs

def CanonicalFields : List (String × Json) → Prop
  | [] => True
  | (_, v) :: rest => Canonical v ∧ CanonicalFields rest

end

theorem canonicalItems_iff {items : List Json} :
    CanonicalItems items ↔ ∀ v ∈ items, Canonical v := by
  induction items with
  | nil => simp [CanonicalItems]
  | cons x xs ih => simp [CanonicalItems, ih]

theorem canonicalFields_iff {fields : List (String × Json)} :
    CanonicalFields fields ↔ ∀ e ∈ fields, Canonical e.2 := by
  induction fields with
  | nil => simp [CanonicalFields]
  | cons e rest ih => obtain ⟨k, v⟩ := e; simp [CanonicalFields, ih]

end Json
end StepPipeline
