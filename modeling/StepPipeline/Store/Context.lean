import StepPipeline.Json.Description
import StepPipeline.Json.Printer
import StepPipeline.Text.Search

/-!
# Contexts

What all steps of a pipeline share besides the data bus: plain values, a counter for each loop
target, and the description of the test that the pipeline implements. `Context.toRecord` flattens
all three: a counter under its target's name behind `_loopCount:`, the test under `_test`.

A counter is a 32-bit word.
-/

namespace StepPipeline

/-- The test that a pipeline implements, as its document describes it. -/
structure TestInfo where
  name : Option String := none
  version : Option String := none
  input : Option Json := none
  output : Option Json := none
  assertions : List Json := []
  deriving Inhabited

namespace TestInfo

def isBlank (t : TestInfo) : Bool :=
  t.name.isNone && t.version.isNone && t.input.isNone && t.output.isNone && t.assertions.isEmpty

def fieldNames : List String := ["name", "version", "input", "output", "assertions"]

def ofJson? (v : Json) : Option TestInfo := do
  let fields ← v.fields? fieldNames
  let name ← Json.optionalText? fields "name"
  let version ← Json.optionalText? fields "version"
  let assertions ← Json.listField? fields "assertions"
  some {
    name, version, assertions
    input := Json.optionalValue fields "input"
    output := Json.optionalValue fields "output" }

/-- The description of a test, without what is not told. -/
def toJson (t : TestInfo) : Json := Json.object [
  ("assertions", Json.ofListUnlessEmpty t.assertions),
  ("input", t.input),
  ("name", t.name.map .str),
  ("output", t.output),
  ("version", t.version.map .str)]

end TestInfo

/-- The three parts of what the steps of a pipeline share. -/
structure Context where
  values : Record := []
  /-- How often each target was jumped to. -/
  jumpCounts : Table UInt32 := []
  test : Option TestInfo := none
  deriving Inhabited

namespace Context

/-- What the names of counters in a flat record begin with. -/
def jumpMark : String := "_loopCount:"

/-- The name under which a counter stands in a flat record. -/
def jumpKey (target : String) : String := jumpMark ++ target

def testKey : String := "_test"

def ofRecord (values : Record) (test : Option TestInfo) : Context := { values, test }

def get? (c : Context) (key : String) : Option Json := Table.find? c.values key

/-- Whether there is a value under a key that counts as true. -/
def isOn (c : Context) (key : String) : Bool := (c.get? key).any Json.truthy

def contains (c : Context) (key : String) : Bool := Table.contains c.values key

def set (c : Context) (key : String) (value : Json) : Context :=
  { c with values := Table.insert c.values key value }

def remove (c : Context) (key : String) : Context := { c with values := Table.erase c.values key }

/-- Write the values of a record over those of the context. -/
def merge (c : Context) (record : Record) : Context :=
  { c with values := Table.overlay c.values record }

/-- Write values, counters and, if there is one, the test of `other` over those of `c`. -/
def mergeAll (c other : Context) : Context where
  values := Table.overlay c.values other.values
  jumpCounts := Table.overlay c.jumpCounts other.jumpCounts
  test := other.test <|> c.test

def jumpCount (c : Context) (target : String) : UInt32 := (Table.find? c.jumpCounts target).getD 0

def countJump (c : Context) (target : String) : Context :=
  { c with jumpCounts := Table.insert c.jumpCounts target (c.jumpCount target + 1) }

def setTest (c : Context) (test : TestInfo) : Context := { c with test := some test }

/-- The entries that counters add to a flat record. -/
def countEntries (c : Context) : Record :=
  c.jumpCounts.map fun e => (jumpKey e.1, Json.nat e.2.toNat)

def testEntries (c : Context) : Record :=
  c.test.toList.map fun t => (testKey, t.toJson)

def toRecord (c : Context) : Record :=
  Table.overlay (Table.overlay c.values c.countEntries) c.testEntries

/-- Whether a key of a flat record belongs to the counters or the test. -/
def isBookkeeping (key : String) : Bool :=
  key == testKey || (Text.dropLeading? jumpMark.toList key.toList).isSome

def withoutBookkeeping (record : Record) : Record :=
  Table.filterKeys (fun key => !isBookkeeping key) record

/-! ### Counting -/

theorem jumpCount_countJump_self (c : Context) (target : String) :
    (c.countJump target).jumpCount target = c.jumpCount target + 1 := by
  simp [countJump, jumpCount]

theorem jumpCount_countJump_of_ne (c : Context) {target other : String} (h : other ≠ target) :
    (c.countJump target).jumpCount other = c.jumpCount other := by
  simp [countJump, jumpCount, Table.find?_insert_of_ne _ _ h]

end Context
end StepPipeline
