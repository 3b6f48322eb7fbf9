import StepPipeline.Fault
import StepPipeline.Json.Basic
import StepPipeline.Path.Basic

/-!
# Reading and writing at a path

`Json.getAt?` walks into a value, `Json.setAt` puts a value at a place. Writing makes the way it
needs: a missing place is made, a scalar on the way becomes a record or an array, an array is
filled up with `null`, and an array entered by a name that is no position in it becomes a record.
-/

namespace StepPipeline

/-- The greatest position to which writing extends an array. -/
def maxPosition : Nat := 65535

def Segment.toPosition? (s : Segment) : Option Nat := s.toIndex?.filter (· ≤ maxPosition)

namespace Json

def child? : Json → Segment → Option Json
  | .obj fields, s => Table.find? fields s.toKey
  | .arr items, s => s.toIndex?.bind fun i => items[i]?
  | _, _ => none

def getAt? : Json → Path → Option Json
  | v, [] => some v
  | v, s :: rest => (v.child? s).bind fun child => getAt? child rest

/-- The items of an array, filled up with `null` so that there is one at position `i`. -/
def extendTo (items : List Json) (i : Nat) : List Json :=
  items ++ List.replicate (i + 1 - items.length) .null

/-- Apply `f` to the item at position `i`, which is made if it is missing. -/
def updateItem (items : List Json) (i : Nat) (f : Json → Json) : Json :=
  .arr ((extendTo items i).modify i f)

/-- Apply `f` to the field `name`, which is made if it is missing. -/
def updateField (fields : Record) (name : String) (f : Json → Json) : Json :=
  .obj (Table.insert fields name (f ((Table.find? fields name).getD .null)))

/-- Apply `f` to the part of a value that a segment denotes. A value that has no such part is first
replaced by an empty array if the segment is an index, by an empty record if it is a key. -/
def updateChild (v : Json) (s : Segment) (f : Json → Json) : Json :=
  match v, s.toPosition? with
  | .obj fields, _ => updateField fields s.toKey f
  | .arr items, some i => updateItem items i f
  | _, _ =>
    match s with
    | .index i => updateItem [] i f
    | .key name => updateField [] name f

def setAt : Json → Path → Json → Json
  | _, [], value => value
  | root, s :: rest, value => root.updateChild s fun child => setAt child rest value

end Json

namespace Path

/-- The first index of a path that writing refuses. -/
def tooFar? (p : Path) : Option Nat :=
  p.findSome? fun
    | .index i => if maxPosition < i then some i else none
    | .key _ => none

end Path

namespace Json

def get? (root : Json) (text : String) : Option Json := root.getAt? (Path.parse text)

/-- Put `value` at the path that `text` writes; a path with an index out of reach is a fault. -/
def set (root : Json) (text : String) (value : Json) : Except Fault Json :=
  match (Path.parse text).tooFar? with
  | some i => .error (.invalidPath text s!"index {i} exceeds {maxPosition}")
  | none => .ok (root.setAt (Path.parse text) value)

end Json
end StepPipeline
