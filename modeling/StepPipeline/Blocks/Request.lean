import StepPipeline.Block
import StepPipeline.Condition.Evaluation
import StepPipeline.Json.Written

/-!
# The HTTP block

An `http_request` makes a request of its inputs, hands it to a transport and turns the response
into its output. Any status is an output; only a request that cannot be made and a transport that
gives no response are faults. A transport is a function, so what a block does stays a function of
its inputs; `Transport.offline` reaches nobody.
-/

namespace StepPipeline

namespace Http

inductive Body where
  | none
  | text (s : String)
  | json (v : Json)

/-- A request with everything resolved, as the transport takes it. -/
structure Request where
  method : String
  url : String
  headers : List (String × String)
  query : List (String × String)
  body : Body
  /-- In milliseconds. -/
  timeout : Nat

/-- What the transport brings back, its text not read yet. -/
structure Response where
  status : Nat
  headers : Table String
  text : String

/-- What carries a request to a server and its response back. -/
abbrev Transport := Request → Except String Response

/-- The transport that reaches nobody. -/
def Transport.offline : Transport := fun request =>
  .error s!"error sending request for url ({request.url})"

/-- The capital form of a character, as far as it can stand in the name of a method. -/
def capital (c : Char) : List Char :=
  match c.toNat with
  | 0xDF => ['S', 'S']
  | 0x131 => ['I']
  | 0x17F => ['S']
  | 0xFB00 => ['F', 'F']
  | 0xFB01 => ['F', 'I']
  | 0xFB02 => ['F', 'L']
  | 0xFB03 => ['F', 'F', 'I']
  | 0xFB04 => ['F', 'F', 'L']
  | 0xFB05 => ['S', 'T']
  | 0xFB06 => ['S', 'T']
  | _ => [c.toUpper]

def isMethodChar (c : Char) : Bool :=
  c.isAlphanum || "!#$%&*+-.^_|~".toList.contains c || c.toNat == 39 || c.toNat == 96

/-- The method that an input asks for, or why there is none. -/
def readMethod : Option Json → Except String String
  | none | some .null => .ok "GET"
  | some (.str name) =>
    let letters := name.toList.flatMap capital
    if !letters.isEmpty && letters.all isMethodChar then .ok (String.ofList letters)
    else .error s!"invalid HTTP method '{name}'"
  | some v => .error s!"HTTP method must be a string, got {v.compact}"

/-- The fields of a record as texts; anything else has none. -/
def textPairs (v : Option Json) : List (String × String) :=
  (v.map Json.toRecord |>.getD []).map fun e => (e.1, e.2.toText)

def readBody : Option Json → Body
  | none | some .null => .none
  | some (.str s) => .text s
  | some v => .json v

/-- The body of a response: read as JSON if its type says so and it can be read. -/
def Response.body (r : Response) : Json :=
  let isJson := (Table.find? r.headers "content-type").any fun type => Text.contains type "json"
  (if isJson then Json.parse? r.text else none).getD (.str r.text)

def Response.toRecord (r : Response) : Record := [
  ("body", r.body),
  ("duration", .nat 0),
  ("headers", .obj (Table.mapValues .str r.headers)),
  ("ok", .bool (200 ≤ r.status && r.status < 300)),
  ("status", .nat r.status)]

/-- The time after which a request is given up, unless it is set. -/
def defaultTimeout : Nat := 30000

def blockType : String := "http_request"

def readRequest (timeout : Nat) (inputs : Record) : Except Fault Request := do
  let .str url ← Block.required blockType inputs "url"
    | throw (.blockFailed blockType "url must be a string")
  match readMethod (Table.find? inputs "method") with
  | .error reason => throw (.blockFailed blockType reason)
  | .ok method =>
    return {
      method, url
      headers := textPairs (Table.find? inputs "headers")
      query := textPairs (Table.find? inputs "query")
      body := readBody (Table.find? inputs "body")
      timeout := ((Table.find? inputs "timeout").bind Json.count?).getD timeout }

end Http

namespace Blocks

def httpRequest (transport : Http.Transport) (timeout : Nat) : Block :=
  .reading Http.blockType ⟨["url"], ["method", "headers", "body", "query", "timeout"]⟩
    ⟨["status", "ok", "headers", "body", "duration"]⟩ fun inputs _ => do
      let request ← Http.readRequest timeout inputs
      match transport request with
      | .ok response => return response.toRecord
      | .error reason => throw (.http reason)

/-- Make the block from a `config`, whose `timeout` has to be a number. -/
def makeHttpRequest (transport : Http.Transport) (config : Record) : Except Fault Block :=
  match Table.find? config "timeout" with
  | none => .ok (httpRequest transport Http.defaultTimeout)
  | some timeout =>
    match timeout.count? with
    | some ms => .ok (httpRequest transport ms)
    | none => .error (.invalidPipeline
        s!"http_request timeout must be a number of milliseconds, got {timeout.compact}")

end Blocks
end StepPipeline
