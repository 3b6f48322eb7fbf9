import StepPipeline.Json.Basic

/-!
# Descriptions

How a JSON value describes a structure: as an object with the structure's fields, others ignored,
or as an array of the fields in their order, the last ones left out at will. `Json.fields?` brings
both to a table of the fields that are there; each field is then read by its kind. Going back,
`Json.object` writes the fields that are there.
-/

namespace StepPipeline.Json

def occurrences (fields : List (String × Json)) (name : String) : Nat :=
  fields.countP fun e => e.1 == name

/-- The fields that a value gives to a structure with the given field names; no name may be given
twice. -/
def fields? (names : List String) : Json → Option (List (String × Json))
  | .obj fields => if names.all fun n => occurrences fields n ≤ 1 then some fields else none
  | .arr items => if items.length ≤ names.length then some (names.zip items) else none
  | _ => none

/-- A text that has to be there. -/
def textField? (fields : List (String × Json)) (name : String) : Option String :=
  (Table.find? fields name).bind asStr?

/-- A text that may be missing or `null`. -/
def optionalText? (fields : List (String × Json)) (name : String) : Option (Option String) :=
  match Table.find? fields name with
  | none => some none
  | some .null => some none
  | some (.str s) => some (some s)
  | some _ => none

def optionalValue (fields : List (String × Json)) (name : String) : Option Json :=
  match Table.find? fields name with
  | some .null => none
  | found => found

def recordField? (fields : List (String × Json)) (name : String) : Option Record :=
  match Table.find? fields name with
  | none => some []
  | some v => v.asRecord?

def listField? (fields : List (String × Json)) (name : String) : Option (List Json) :=
  match Table.find? fields name with
  | none => some []
  | some v => v.asItems?

/-- The object of the fields that have a value. -/
def object (entries : List (String × Option Json)) : Json :=
  .obj (entries.filterMap fun e => e.2.map fun v => (e.1, v))

def ofListUnlessEmpty (items : List Json) : Option Json :=
  if items.isEmpty then none else some (.arr items)

end StepPipeline.Json
