import StepPipeline.Block
import StepPipeline.Json.Written
import StepPipeline.Path.Access
import StepPipeline.Text.Blank

/-!
# Blocks that read texts

A `json_parser` reads its `body` as JSON and may keep only the part at a path. A `stream_parser`
reads a stream of events: every line `data: …` is an event, read as JSON if it can be; the word
`[DONE]` says that the stream is complete, and the text fragments that events carry are joined.
-/

namespace StepPipeline.Blocks

/-! ### JSON -/

/-- The value of a body: a text is read, any other value is taken as it is. -/
def bodyValue? : Json → Option Json
  | .str text => Json.parse? text
  | v => some v

/-- The part of a value at the `path` of the inputs, if they have one. -/
def narrowed (inputs : Record) (v : Json) : Json :=
  match Table.find? inputs "path" with
  | some (.str path) => Json.ofOption (v.get? path)
  | _ => v

/-- Reads a JSON text. A text that is none is an error in the output. -/
def jsonParser : Block :=
  .reading "json_parser" ⟨["body"], ["path"]⟩ ⟨["parsed", "error"]⟩ fun inputs _ => do
    let body ← Block.required "json_parser" inputs "body"
    match bodyValue? body with
    | some v => return [("error", .null), ("parsed", narrowed inputs v)]
    | none =>
      return [("error", .str "Failed to parse JSON: not a JSON text"), ("parsed", .null)]

/-! ### Event streams -/

/-- What a stream has carried so far. -/
structure EventStream where
  events : List Json := []
  content : List Char := []
  complete : Bool := false

/-- The line that says that a stream is complete. -/
def doneMark : List Char := "[DONE]".toList

/-- What a line carries behind `data:`, blanks around it left out; a line that carries nothing
does not count. -/
def payload? (line : List Char) : Option (List Char) :=
  match Text.dropLeading? "data:".toList (Text.trim line) with
  | some rest => if Text.trim rest = [] then none else some (Text.trim rest)
  | none => none

/-- Where an event may carry a fragment of text, by precedence. -/
def fragmentPaths : List String := ["choices[0].delta.content", "delta.text", "choices[0].text"]

def fragment? (event : Json) : Option String :=
  fragmentPaths.findSome? fun path => (event.get? path).bind Json.asStr?

def eventOf (payload : List Char) : Json :=
  (Json.parse? (String.ofList payload)).getD (.str (String.ofList payload))

namespace EventStream

def receive (s : EventStream) (payload : List Char) : EventStream :=
  if payload = doneMark then { s with complete := true }
  else
    let event := eventOf payload
    { s with
      events := s.events ++ [event]
      content := s.content ++ ((fragment? event).getD "").toList }

def ofBody (body : List Char) : EventStream :=
  ((Text.lines body).filterMap payload?).foldl receive {}

def toRecord (s : EventStream) (error : Json) : Record := [
  ("content", .str (String.ofList s.content)),
  ("done", .bool s.complete),
  ("error", error),
  ("eventCount", .nat s.events.length),
  ("events", .arr s.events)]

end EventStream

/-- Reads an event stream. A body that is no text is an error in the output. -/
def streamParser : Block :=
  .reading "stream_parser" ⟨["body"], []⟩ ⟨["events", "content", "eventCount", "done", "error"]⟩
    fun inputs _ => do
      match ← Block.required "stream_parser" inputs "body" with
      | .str body => return (EventStream.ofBody body.toList).toRecord .null
      | _ => return EventStream.toRecord {} (.str "Stream body must be a string")

end StepPipeline.Blocks
