import StepPipeline.Json.Written

/-!
# Reading descriptions from texts

A text that describes a structure may hold fields that the structure does not have; such a field
is skipped whatever its value is, be it a number out of range. A shape tells where the structures
are. What is left of the text is a value in which a field given twice is still there twice, so
that it can be refused.
-/

namespace StepPipeline

/-- Where the structures of a description are. -/
inductive Shape where
  /-- A value that is taken as it is. -/
  | any
  /-- A record of which it shows only later whether a field may be given twice. -/
  | maybeStructure
  | structure (fields : List (String × Shape))
  | list (item : Shape)

namespace Shape

def field? (fields : List (String × Shape)) (name : String) : Option Shape :=
  (fields.find? fun e => e.1 == name).map (·.2)

/-- The sorted entries, preceded by all entries in the order of the text if a name is
repeated. -/
def keepRepeated (entries : List (String × Json)) : List (String × Json) :=
  (if (entries.map (·.1)).Nodup then [] else entries) ++ Table.ofList entries

end Shape

namespace Written

mutual

def shaped? : Written → Shape → Nat → Option Json
  | .arr items, .structure fields, depth + 1 =>
    (shapedPositions? items (fields.map (·.2)) depth).map .arr
  | .arr items, .list item, depth + 1 => (shapedItems? items item depth).map .arr
  | .obj entries, .structure fields, depth + 1 => (shapedFields? entries fields depth).map .obj
  | .obj entries, .maybeStructure, depth + 1 =>
    (entries? entries depth []).map fun es => .obj (Shape.keepRepeated es)
  | w, _, depth => value? w depth

/-- The values of items that all have one shape. -/
def shapedItems? : List Written → Shape → Nat → Option (List Json)
  | [], _, _ => some []
  | w :: rest, item, depth => do
    let v ← shaped? w item depth
    let vs ← shapedItems? rest item depth
    some (v :: vs)

/-- The values of items that have a shape each; items without one are taken as they are. -/
def shapedPositions? : List Written → List Shape → Nat → Option (List Json)
  | [], _, _ => some []
  | w :: rest, shapes, depth => do
    let v ← shaped? w (shapes.headD .any) depth
    let vs ← shapedPositions? rest shapes.tail depth
    some (v :: vs)

/-- The entries that are fields of the structure; others are skipped unseen, but for their names. -/
def shapedFields? : List (Option String × Written) → List (String × Shape) → Nat →
    Option (List (String × Json))
  | [], _, _ => some []
  | (none, _) :: _, _, _ => none
  | (some name, w) :: rest, fields, depth =>
    match Shape.field? fields name with
    | some shape => do
      let v ← shaped? w shape depth
      let vs ← shapedFields? rest fields depth
      some ((name, v) :: vs)
    | none => shapedFields? rest fields depth

end

end Written

def Shape.parse? (shape : Shape) (text : String) : Option Json :=
  (Written.read text).bind fun w => w.shaped? shape Written.maxDepth

end StepPipeline
