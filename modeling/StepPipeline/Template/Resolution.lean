import StepPipeline.Json.Printer
import StepPipeline.Store.DataBus
import StepPipeline.Template.Placeholder

/-!
# Resolving templates

A placeholder is looked up in the context first and on the data bus second; `env.NAME` asks the
context for `NAME`. A text that is one placeholder becomes the value found, of whatever type, or
nothing; in a longer text every placeholder is replaced by its value's text, or stays as it is; a
text without placeholders names a slot or stands for itself.
-/

namespace StepPipeline

/-- Where placeholders are looked up. -/
structure Scope where
  values : Record
  bus : DataBus

namespace Scope

/-- What a path asks the context for. -/
def contextKey (path : String) : String :=
  match path.toList with
  | 'e' :: 'n' :: 'v' :: '.' :: name => String.ofList name
  | _ => path

/-- The value of a path; the context goes before the bus. -/
def lookup? (s : Scope) (path : String) : Option Json :=
  match Table.find? s.values (contextKey path) with
  | some v => some v
  | none => s.bus.lookup? path

/-- What the context has is found whatever is on the bus. -/
theorem lookup?_of_bound {s : Scope} {path : String} {value : Json}
    (h : Table.find? s.values (contextKey path) = some value) : s.lookup? path = some value := by
  rw [lookup?, h]

theorem lookup?_of_unbound {s : Scope} {path : String}
    (h : Table.find? s.values (contextKey path) = none) :
    s.lookup? path = s.bus.lookup? path := by
  rw [lookup?, h]

/-- What a piece of a longer text becomes. -/
def expand (s : Scope) : Template.Piece → List Char
  | .char c => [c]
  | .slot path =>
    match s.lookup? (String.ofList path) with
    | some v => v.toText.toList
    | none => Template.written path

def resolveText (s : Scope) (text : String) : Option Json :=
  match Template.whole? text with
  | some path => s.lookup? path
  | none =>
    if Template.hasSlot text then
      some (.str (String.ofList ((Template.pieces text.toList).flatMap s.expand)))
    else some ((s.bus.get? text).getD (.str text))

/-- Resolve a value: a text as above, any other value to itself. -/
def resolve (s : Scope) : Json → Option Json
  | .str text => s.resolveText text
  | v => some v

/-- Resolve every text inside a value. A field that resolves to nothing is dropped, an item that
does is `null`. -/
def resolveWithin (s : Scope) : Json → Option Json
  | .str text => s.resolveText text
  | .arr items => some (.arr (items.map fun v => (resolveWithin s v).getD .null))
  | .obj fields =>
    some (.obj (fields.filterMap fun e => (resolveWithin s e.2).map fun v => (e.1, v)))
  | v => some v
termination_by v => sizeOf v
decreasing_by
  all_goals simp_wf
  · have := List.sizeOf_lt_of_mem ‹_›; omega
  · have := Json.sizeOf_lt_of_mem ‹_›; omega

def resolveFields (s : Scope) (fields : Record) : Record :=
  fields.filterMap fun e => (s.resolveWithin e.2).map fun v => (e.1, v)

end Scope
end StepPipeline
