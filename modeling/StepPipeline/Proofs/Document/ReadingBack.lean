import StepPipeline.Condition.Basic
import StepPipeline.Proofs.Document.Reading
import StepPipeline.Suite.Basic

/-!
# Descriptions that are read back

A description is written as an object of the fields that have a value, so reading it back is a
matter of field by field: `Json.fields?_object` says which are found. Only three things are written in
a way that reads as something else: a value that is `null` reads as a missing one, a record of
inputs in the form of a source reads as the source (`InputSource.IsSource`), and a table with a
name twice reads as a table without. A description with none of them is `Plain`, and these are
exactly the descriptions that are read back as they are; so is everything that was read from a
value.

Main statement: `descriptions_read_back`.
-/

namespace StepPipeline

/-! ## Inputs -/

namespace InputSource

/-- A record in the form of a source: with a text `from`, and `as` a text if it is anything. -/
structure IsSource (fields : Record) : Prop where
  path : ∃ path, Table.find? fields "from" = some (.str path)
  name : Table.find? fields "as" = none ∨ Table.find? fields "as" = some .null ∨
    ∃ name, Table.find? fields "as" = some (.str name)

/-- Inputs that are read back: their record is a table, and no source. -/
def Plain : InputSource → Prop
  | record fields => Table.NamesOnce fields ∧ ¬ IsSource fields
  | _ => True

variable {v : Json} {fields : Record}

/-- A record in which each name stands once is taken for a source exactly if it has the form
of one. -/
theorem source?_eq_none_iff (h : Table.NamesOnce fields) :
    source? (.obj fields) = none ↔ ¬ IsSource fields := by
  have hsource : source? (.obj fields) = (Json.textField? fields "from").bind fun path =>
      (Json.optionalText? fields "as").bind fun name => some (.source path name) := by
    rw [source?, Json.fields?_obj h]
    rfl
  rw [hsource]
  constructor
  · rintro hnone ⟨⟨path, hpath⟩, hname⟩
    obtain ⟨name, hname⟩ := Option.isSome_iff_exists.mp (Json.isSome_optionalText?_iff.mpr hname)
    rw [Json.textField?_eq_some_iff.mpr hpath, hname] at hnone
    cases hnone
  · intro hno
    cases hpath : Json.textField? fields "from" with
    | none => rfl
    | some path =>
        cases hname : Json.optionalText? fields "as" with
        | none => rfl
        | some name =>
            refine absurd ⟨⟨path, Json.textField?_eq_some_iff.mp hpath⟩, ?_⟩ hno
            exact Json.isSome_optionalText?_iff.mp (by rw [hname]; rfl)

/-- The two fields of a source are enough to know it by. -/
theorem source?_toJson (path : String) (name : Option String) :
    source? (source path name).toJson = some (.source path name) := by
  obtain ⟨fields, hfields, hfind⟩ := Json.fields?_object ["from", "as"]
    [("as", name.map .str), ("from", some (.str path))]
    (by decide : ["as", "from"].Nodup)
  have hpath := Json.textField?_eq_some_iff.mpr (hfind "from")
  have hname := Json.optionalText?_of_find? (hfind "as")
  simp only [source?, toJson, hfields, hpath, hname, Option.bind_eq_bind, Option.bind_some]

/-- A record that reads as a source, or has a name twice, comes back as something else. -/
theorem ofJson?_toJson_iff (i : InputSource) : ofJson? i.toJson = some i ↔ i.Plain := by
  cases i with
  | template text => exact ⟨fun _ => trivial, fun _ => rfl⟩
  | source path name =>
      refine ⟨fun _ => trivial, fun _ => ?_⟩
      show some ((source? (source path name).toJson).getD _) = _
      rw [source?_toJson]
      rfl
  | record fields =>
      rw [toJson, ofJson?_eq_record_iff, Plain]
      constructor
      · rintro ⟨entries, heq, hsource, hlast⟩
        obtain rfl := Json.obj.inj heq
        have honce := Table.lastWins_eq_self_iff.mp hlast
        exact ⟨honce, (source?_eq_none_iff honce).mp hsource⟩
      · rintro ⟨honce, hno⟩
        exact ⟨fields, rfl, (source?_eq_none_iff honce).mpr hno,
          Table.lastWins_of_namesOnce honce⟩

/-- A record that is read from a value with every name once is not in the form of a source, or it
would have been read as one. -/
theorem plain_of_ofJson? (hv : v.Canonical) {i : InputSource} (h : ofJson? v = some i) :
    i.Plain := by
  cases i with
  | template text => trivial
  | source path name => trivial
  | record fields =>
      obtain ⟨entries, rfl, hsource, rfl⟩ := ofJson?_eq_record_iff.mp h
      -- In a canonical value the entries that were kept are all there were.
      have honce : Table.NamesOnce entries := hv.1.namesOnce
      rw [Plain, Table.lastWins_of_namesOnce honce]
      exact ⟨honce, (source?_eq_none_iff honce).mp hsource⟩

/-- Needed to tell written inputs from missing ones. -/
theorem toJson_ne_null (i : InputSource) : i.toJson ≠ .null := by
  cases i <;> exact fun h => by cases h

end InputSource

/-! ## Outputs -/

namespace OutputTarget

/-- Outputs that are read back: their mapping is a table. -/
def Plain : OutputTarget → Prop
  | mapping slots => Table.NamesOnce slots
  | slot _ => True

/-- A mapping is written with texts only, so none of its entries is refused. -/
theorem slots?_mapValues (slots : Table String) :
    slots? (Table.mapValues .str slots) = some slots :=
  List.mapM_map_eq_some_iff.mpr fun _ _ => rfl

theorem ofJson?_toJson_iff (o : OutputTarget) : ofJson? o.toJson = some o ↔ o.Plain := by
  cases o with
  | slot name => exact ⟨fun _ => trivial, fun _ => rfl⟩
  | mapping slots =>
      rw [toJson, ofJson?, slots?_mapValues, Option.map_some, Option.some_inj,
        OutputTarget.mapping.injEq]
      exact Table.lastWins_eq_self_iff

/-- Of two entries of one name the reader has kept the last, so a mapping that was read is a
table. -/
theorem plain_of_ofJson? {v : Json} {o : OutputTarget} (h : ofJson? v = some o) : o.Plain := by
  unfold ofJson? at h
  split at h
  · obtain rfl := Option.some.inj h
    trivial
  · obtain ⟨slots, -, rfl⟩ := Option.map_eq_some_iff.mp h
    exact Table.namesOnce_lastWins slots
  · cases h

theorem toJson_ne_null (o : OutputTarget) : o.toJson ≠ .null := by
  cases o <;> exact fun h => by cases h

end OutputTarget

/-! ## Steps -/

namespace StepDescription

/-- Input and output are read back, and no `null` stands where an absent `config` would be read. -/
structure Plain (s : StepDescription) : Prop where
  input : ∀ i, s.input = some i → i.Plain
  output : ∀ o, s.output = some o → o.Plain
  config : s.config ≠ some .null

variable {v : Json} {s : StepDescription}

/-- A part is read back exactly if what is there is. -/
theorem optional?_map_iff {α : Type} (read : Json → Option α) {write : α → Json}
    (hwrite : ∀ a, write a ≠ .null) {found : Option Json} {part : Option α}
    (hfound : found = part.map write) :
    optional? read found = some part ↔ ∀ a, part = some a → read (write a) = some a := by
  subst hfound
  cases part with
  | none =>
      constructor
      · intro _ a ha
        cases ha
      · exact fun _ => rfl
  | some a =>
      have hread : optional? read (some (write a)) = (read (write a)).map some := by
        unfold optional?
        split
        · next h => cases h
        · next h => exact absurd (Option.some.inj h) (hwrite a)
        · next h => rw [Option.some.inj h]
      rw [Option.map_some, hread]
      simp

/-- **Steps.** A `null` as `config` is read as none, and inputs and outputs are read back by
themselves. -/
theorem ofJson?_toJson_iff (s : StepDescription) : ofJson? s.toJson = some s ↔ s.Plain := by
  obtain ⟨fields, hfields, hfind⟩ := Json.fields?_object fieldNames [
    ("block", some (.str s.block)), ("config", s.config), ("id", s.id.map .str),
    ("input", s.input.map InputSource.toJson), ("output", s.output.map OutputTarget.toJson)]
    (by decide : ["block", "config", "id", "input", "output"].Nodup)
  have hinput := optional?_map_iff InputSource.ofJson? InputSource.toJson_ne_null (hfind "input")
  have houtput := optional?_map_iff OutputTarget.ofJson? OutputTarget.toJson_ne_null
    (hfind "output")
  have hconfig := Json.optionalValue_eq_iff (hfind "config")
  simp only [InputSource.ofJson?_toJson_iff] at hinput
  simp only [OutputTarget.ofJson?_toJson_iff] at houtput
  -- The block and the id are read back in any case.
  rw [ofJson?_eq_some_iff, toJson, Json.exists_fields?_iff hfields]
  constructor
  · intro hread
    exact ⟨hinput.mp hread.input, houtput.mp hread.output, hconfig.mp hread.config⟩
  · intro hplain
    exact ⟨Json.textField?_eq_some_iff.mpr (hfind "block"),
      Json.optionalText?_of_find? (hfind "id"), hinput.mpr hplain.input,
      houtput.mpr hplain.output, hconfig.mpr hplain.config⟩

theorem plain_of_ofJson? (hv : v.Canonical) (h : ofJson? v = some s) : s.Plain := by
  obtain ⟨fields, hfields, hread⟩ := ofJson?_eq_some_iff.mp h
  constructor
  · intro i hi
    obtain ⟨u, hu, hinput⟩ := optional?_eq_some (hi ▸ hread.input)
    exact InputSource.plain_of_ofJson? (Shape.canonical_of_field hv hfields hu) hinput
  · intro o ho
    obtain ⟨u, -, houtput⟩ := optional?_eq_some (ho ▸ hread.output)
    exact OutputTarget.plain_of_ofJson? houtput
  · rw [← hread.config]
    exact Json.optionalValue_ne_null

/-- A list of steps is read back exactly if each of its steps is. -/
theorem bind_listOfJson?_iff {items : Option (List Json)} {steps : List StepDescription}
    (h : items = some (steps.map toJson)) :
    items.bind listOfJson? = some steps ↔ ∀ s ∈ steps, s.Plain := by
  simp only [h, Option.bind_some, listOfJson?, List.mapM_map_eq_some_iff, ofJson?_toJson_iff]

theorem plain_of_listOfJson? {items : List Json} (hitems : ∀ item ∈ items, item.Canonical)
    {steps : List StepDescription} (h : listOfJson? items = some steps) :
    ∀ s ∈ steps, s.Plain := by
  intro s hs
  obtain ⟨item, hitem, hread⟩ := List.exists_of_mem_mapM h hs
  exact plain_of_ofJson? (hitems item hitem) hread

end StepDescription

/-! ## Documents -/

namespace Document

/-- No `null` stands where an absent field would be read back, in the steps either. -/
structure Plain (d : Document) : Prop where
  pipeline : ∀ s ∈ d.pipeline, s.Plain
  version : d.version ≠ some .null
  input : d.input ≠ some .null
  output : d.output ≠ some .null

variable {v : Json} {d : Document}

/-- **Documents.** What is lost is a `null` where a missing value means the same. -/
theorem ofJson?_toJson_iff (d : Document) : ofJson? d.toJson = some d ↔ d.Plain := by
  obtain ⟨fields, hfields, hfind⟩ := Json.fields?_object fieldNames [
    ("assertions", Json.ofListUnlessEmpty d.assertions), ("context", some (.obj d.context)),
    ("description", d.description.map .str), ("input", d.input), ("name", d.name.map .str),
    ("output", d.output), ("pipeline", some (.arr (d.pipeline.map StepDescription.toJson))),
    ("version", d.version)]
    (by decide : ["assertions", "context", "description", "input", "name", "output", "pipeline",
      "version"].Nodup)
  have hpipeline := StepDescription.bind_listOfJson?_iff
    (Json.listField?_of_find? (hfind "pipeline"))
  have hversion := Json.optionalValue_eq_iff (hfind "version")
  have hinput := Json.optionalValue_eq_iff (hfind "input")
  have houtput := Json.optionalValue_eq_iff (hfind "output")
  rw [ofJson?_eq_some_iff, toJson, Json.exists_fields?_iff hfields]
  constructor
  · intro hread
    exact ⟨hpipeline.mp hread.pipeline, hversion.mp hread.version, hinput.mp hread.input,
      houtput.mp hread.output⟩
  · intro hplain
    exact ⟨Json.optionalText?_of_find? (hfind "name"), hversion.mpr hplain.version,
      Json.optionalText?_of_find? (hfind "description"),
      Json.recordField?_of_find? (hfind "context"), hpipeline.mpr hplain.pipeline,
      hinput.mpr hplain.input, houtput.mpr hplain.output,
      Json.listField?_of_ofListUnlessEmpty (hfind "assertions")⟩

theorem plain_of_ofJson? (hv : v.Canonical) (h : ofJson? v = some d) : d.Plain := by
  obtain ⟨fields, hfields, hread⟩ := ofJson?_eq_some_iff.mp h
  constructor
  · obtain ⟨items, hitems, hpipeline⟩ := Option.bind_eq_some_iff.mp hread.pipeline
    refine StepDescription.plain_of_listOfJson? ?_ hpipeline
    exact Json.canonical_of_listField? (Shape.canonical_of_field hv hfields) hitems
  · rw [← hread.version]
    exact Json.optionalValue_ne_null
  · rw [← hread.input]
    exact Json.optionalValue_ne_null
  · rw [← hread.output]
    exact Json.optionalValue_ne_null

end Document

/-! ## Suites -/

namespace TestCase

def Plain (t : TestCase) : Prop := ∀ s ∈ t.pipeline, s.Plain

structure ReadFrom (t : TestCase) (fields : List (String × Json)) : Prop where
  name : Json.textField? fields "name" = some t.name
  input : Json.recordField? fields "input" = some t.input
  context : Json.recordField? fields "context" = some t.context
  pipeline : ((Table.find? fields "pipeline").bind Json.asItems?).bind
    StepDescription.listOfJson? = some t.pipeline

variable {v : Json} {t : TestCase}

theorem ofJson?_eq_some_iff : ofJson? v = some t ↔
    ∃ fields, v.fields? fieldNames = some fields ∧ t.ReadFrom fields := by
  constructor
  · intro h
    obtain ⟨fields, hfields, h⟩ := Option.bind_eq_some_iff.mp h
    obtain ⟨name, hname, h⟩ := Option.bind_eq_some_iff.mp h
    obtain ⟨input, hinput, h⟩ := Option.bind_eq_some_iff.mp h
    obtain ⟨context, hcontext, h⟩ := Option.bind_eq_some_iff.mp h
    obtain ⟨items, hitems, h⟩ := Option.bind_eq_some_iff.mp h
    obtain ⟨pipeline, hpipeline, h⟩ := Option.bind_eq_some_iff.mp h
    obtain rfl := Option.some.inj h
    exact ⟨fields, hfields, hname, hinput, hcontext,
      Option.bind_eq_some_iff.mpr ⟨items, hitems, hpipeline⟩⟩
  · rintro ⟨fields, hfields, hread⟩
    obtain ⟨items, hitems, hpipeline⟩ := Option.bind_eq_some_iff.mp hread.pipeline
    simp only [ofJson?, hfields, hread.name, hread.input, hread.context, hitems, hpipeline,
      Option.bind_eq_bind, Option.bind_some]

theorem ofJson?_toJson_iff (t : TestCase) : ofJson? t.toJson = some t ↔ t.Plain := by
  obtain ⟨fields, hfields, hfind⟩ := Json.fields?_object fieldNames [
    ("context", some (.obj t.context)), ("input", some (.obj t.input)),
    ("name", some (.str t.name)),
    ("pipeline", some (.arr (t.pipeline.map StepDescription.toJson)))]
    (by decide : ["context", "input", "name", "pipeline"].Nodup)
  have hitems : (Table.find? fields "pipeline").bind Json.asItems? =
      some (t.pipeline.map StepDescription.toJson) := by
    rw [hfind "pipeline"]
    rfl
  have hpipeline := StepDescription.bind_listOfJson?_iff hitems
  -- A test has all its fields, and its object is written out.
  have hwritten : t.toJson.fields? fieldNames = some fields := hfields
  rw [ofJson?_eq_some_iff, Json.exists_fields?_iff hwritten]
  constructor
  · intro hread
    exact hpipeline.mp hread.pipeline
  · intro hplain
    exact ⟨Json.textField?_eq_some_iff.mpr (hfind "name"),
      Json.recordField?_of_find? (hfind "input"), Json.recordField?_of_find? (hfind "context"),
      hpipeline.mpr hplain⟩

theorem plain_of_ofJson? (hv : v.Canonical) (h : ofJson? v = some t) : t.Plain := by
  obtain ⟨fields, hfields, hread⟩ := ofJson?_eq_some_iff.mp h
  obtain ⟨items, hitems, hpipeline⟩ := Option.bind_eq_some_iff.mp hread.pipeline
  obtain ⟨u, hu, hitems⟩ := Option.bind_eq_some_iff.mp hitems
  have hcanonical := Shape.canonical_of_field hv hfields hu
  exact StepDescription.plain_of_listOfJson? (Json.canonical_of_asItems? hcanonical hitems)
    hpipeline

end TestCase

namespace Suite

/-- The steps of all three parts are plain; nothing else in a suite can be `null`. -/
structure Plain (s : Suite) : Prop where
  setup : ∀ step ∈ s.setup, step.Plain
  tests : ∀ test ∈ s.tests, test.Plain
  teardown : ∀ step ∈ s.teardown, step.Plain

structure ReadFrom (s : Suite) (fields : List (String × Json)) : Prop where
  name : Json.optionalText? fields "name" = some s.name
  context : Json.recordField? fields "context" = some s.context
  setup : (Json.listField? fields "setup").bind StepDescription.listOfJson? = some s.setup
  tests : (Json.listField? fields "tests").bind (List.mapM TestCase.ofJson?) = some s.tests
  teardown : (Json.listField? fields "teardown").bind StepDescription.listOfJson? =
    some s.teardown

variable {v : Json} {s : Suite}

theorem ofJson?_eq_some_iff : ofJson? v = some s ↔
    ∃ fields, v.fields? fieldNames = some fields ∧ s.ReadFrom fields := by
  constructor
  · intro h
    obtain ⟨fields, hfields, h⟩ := Option.bind_eq_some_iff.mp h
    obtain ⟨name, hname, h⟩ := Option.bind_eq_some_iff.mp h
    obtain ⟨context, hcontext, h⟩ := Option.bind_eq_some_iff.mp h
    obtain ⟨first, hfirst, h⟩ := Option.bind_eq_some_iff.mp h
    obtain ⟨setup, hsetup, h⟩ := Option.bind_eq_some_iff.mp h
    obtain ⟨items, hitems, h⟩ := Option.bind_eq_some_iff.mp h
    obtain ⟨tests, htests, h⟩ := Option.bind_eq_some_iff.mp h
    obtain ⟨last, hlast, h⟩ := Option.bind_eq_some_iff.mp h
    obtain ⟨teardown, hteardown, h⟩ := Option.bind_eq_some_iff.mp h
    obtain rfl := Option.some.inj h
    exact ⟨fields, hfields, hname, hcontext,
      Option.bind_eq_some_iff.mpr ⟨first, hfirst, hsetup⟩,
      Option.bind_eq_some_iff.mpr ⟨items, hitems, htests⟩,
      Option.bind_eq_some_iff.mpr ⟨last, hlast, hteardown⟩⟩
  · rintro ⟨fields, hfields, hread⟩
    obtain ⟨first, hfirst, hsetup⟩ := Option.bind_eq_some_iff.mp hread.setup
    obtain ⟨items, hitems, htests⟩ := Option.bind_eq_some_iff.mp hread.tests
    obtain ⟨last, hlast, hteardown⟩ := Option.bind_eq_some_iff.mp hread.teardown
    simp only [ofJson?, hfields, hread.name, hread.context, hfirst, hsetup, hitems, htests, hlast,
      hteardown, Option.bind_eq_bind, Option.bind_some]

/-- **Suites.** All is left to the steps of its parts. -/
theorem ofJson?_toJson_iff (s : Suite) : ofJson? s.toJson = some s ↔ s.Plain := by
  obtain ⟨fields, hfields, hfind⟩ := Json.fields?_object fieldNames [
    ("context", some (.obj s.context)), ("name", s.name.map .str),
    ("setup", Json.ofListUnlessEmpty (s.setup.map StepDescription.toJson)),
    ("teardown", Json.ofListUnlessEmpty (s.teardown.map StepDescription.toJson)),
    ("tests", some (.arr (s.tests.map TestCase.toJson)))]
    (by decide : ["context", "name", "setup", "teardown", "tests"].Nodup)
  have hsetup := StepDescription.bind_listOfJson?_iff
    (Json.listField?_of_ofListUnlessEmpty (hfind "setup"))
  have hteardown := StepDescription.bind_listOfJson?_iff
    (Json.listField?_of_ofListUnlessEmpty (hfind "teardown"))
  have htests : (Json.listField? fields "tests").bind (List.mapM TestCase.ofJson?) =
      some s.tests ↔ ∀ test ∈ s.tests, test.Plain := by
    simp only [Json.listField?_of_find? (hfind "tests"), Option.bind_some,
      List.mapM_map_eq_some_iff, TestCase.ofJson?_toJson_iff]
  rw [ofJson?_eq_some_iff, toJson, Json.exists_fields?_iff hfields]
  constructor
  · intro hread
    exact ⟨hsetup.mp hread.setup, htests.mp hread.tests, hteardown.mp hread.teardown⟩
  · intro hplain
    exact ⟨Json.optionalText?_of_find? (hfind "name"),
      Json.recordField?_of_find? (hfind "context"), hsetup.mpr hplain.setup,
      htests.mpr hplain.tests, hteardown.mpr hplain.teardown⟩

theorem plain_of_ofJson? (hv : v.Canonical) (h : ofJson? v = some s) : s.Plain := by
  obtain ⟨fields, hfields, hread⟩ := ofJson?_eq_some_iff.mp h
  have hcanonical : ∀ {name items}, Json.listField? fields name = some items →
      ∀ item ∈ items, item.Canonical :=
    fun hitems => Json.canonical_of_listField? (Shape.canonical_of_field hv hfields) hitems
  obtain ⟨first, hfirst, hsetup⟩ := Option.bind_eq_some_iff.mp hread.setup
  obtain ⟨items, hitems, htests⟩ := Option.bind_eq_some_iff.mp hread.tests
  obtain ⟨last, hlast, hteardown⟩ := Option.bind_eq_some_iff.mp hread.teardown
  refine ⟨StepDescription.plain_of_listOfJson? (hcanonical hfirst) hsetup, ?_,
    StepDescription.plain_of_listOfJson? (hcanonical hlast) hteardown⟩
  intro test htest
  obtain ⟨item, hitem, hread⟩ := List.exists_of_mem_mapM htests htest
  exact TestCase.plain_of_ofJson? (hcanonical hitems item hitem) hread

end Suite

/-! ## Conditions -/

/-- A condition has no part that could be mistaken: its operand is there or is not, and `null` is an
operand. -/
theorem Condition.ofJson_toJson (c : Condition) : Condition.ofJson c.toJson = .ok c := by
  obtain ⟨path, operator, value⟩ := c
  cases value with
  | none => rfl
  | some v => rfl

/-! ## All descriptions -/

def Document.rewritten? (v : Json) : Option Json := (ofJson? v).map toJson

def Suite.rewritten? (v : Json) : Option Json := (ofJson? v).map toJson

theorem Document.ofJson?_toJson_of_ofJson? {v : Json} (hv : v.Canonical) {d : Document}
    (h : ofJson? v = some d) : ofJson? d.toJson = some d :=
  d.ofJson?_toJson_iff.mpr (plain_of_ofJson? hv h)

theorem Suite.ofJson?_toJson_of_ofJson? {v : Json} (hv : v.Canonical) {s : Suite}
    (h : ofJson? v = some s) : ofJson? s.toJson = some s :=
  s.ofJson?_toJson_iff.mpr (plain_of_ofJson? hv h)

/-- **Descriptions are read back.** Writing a document or a suite and reading it gives it back
exactly if it is plain: if no optional value in it is `null`, no record of inputs has the form of a
source, and its inputs and outputs are tables. Whatever is read from a value without repeated
names is plain, so writing what was read changes a value once at most. Every condition is read back, also one with `null` for
an operand. -/
theorem descriptions_read_back :
    (∀ d : Document, Document.ofJson? d.toJson = some d ↔ d.Plain) ∧
    (∀ s : Suite, Suite.ofJson? s.toJson = some s ↔ s.Plain) ∧
    (∀ c : Condition, Condition.ofJson c.toJson = .ok c) ∧
    ∀ v : Json, v.Canonical →
      (∀ d, Document.ofJson? v = some d → Document.ofJson? d.toJson = some d) ∧
      (∀ s, Suite.ofJson? v = some s → Suite.ofJson? s.toJson = some s) ∧
      ∀ v', (Document.rewritten? v = some v' → Document.rewritten? v' = some v') ∧
        (Suite.rewritten? v = some v' → Suite.rewritten? v' = some v') := by
  refine ⟨Document.ofJson?_toJson_iff, Suite.ofJson?_toJson_iff, Condition.ofJson_toJson, ?_⟩
  intro v hv
  refine ⟨fun _ => Document.ofJson?_toJson_of_ofJson? hv,
    fun _ => Suite.ofJson?_toJson_of_ofJson? hv, fun v' => ⟨?_, ?_⟩⟩
  · intro h
    obtain ⟨d, hd, rfl⟩ := Option.map_eq_some_iff.mp h
    rw [Document.rewritten?, Document.ofJson?_toJson_of_ofJson? hv hd]
    rfl
  · intro h
    obtain ⟨s, hs, rfl⟩ := Option.map_eq_some_iff.mp h
    rw [Suite.rewritten?, Suite.ofJson?_toJson_of_ofJson? hv hs]
    rfl

/-- Its second step has a record with a text `from` that is no source, since `as` is a number. -/
def mixedInputs : Document where
  pipeline := [
    { block := "delay", input := some (.source "input.body" none), output := some (.slot "first") },
    { block := "delay", input := some (.record [("as", .num (.int 1)), ("from", .str "first")]),
      output := some (.mapping [("body", "second")]), config := some (.obj [("after", .null)]) }]

/-- An array that ends after the steps. Its only step has `null` for what it lacks, and a field that
steps do not have. -/
def looselyWritten : Json :=
  let input : Json := .obj [("as", .null), ("from", .str "first")]
  .arr [.str "test", .null, .null, .obj [],
    .arr [.obj [("block", .str "delay"), ("config", .null), ("input", input), ("note", .null)]]]

def firstToDelay : Document where
  name := some "test"
  pipeline := [{ block := "delay", input := some (.source "first" none) }]

/-- Both documents are read back. No document is whose only step has `null` for its configuration
or a record in the form of a source. -/
theorem mixedInputs_read_back :
    Document.ofJson? mixedInputs.toJson = some mixedInputs ∧
    Document.ofJson? looselyWritten = some firstToDelay ∧
    Document.ofJson? firstToDelay.toJson = some firstToDelay ∧
    (∀ (d : Document) (s : StepDescription),
      s.config = some .null ∨ s.input = some (.record [("from", .str "first")]) →
      Document.ofJson? { d with pipeline := [s] }.toJson ≠ some { d with pipeline := [s] }) ∧
    Condition.ofJson (Condition.toJson ⟨"status", "equals", some .null⟩) =
      .ok ⟨"status", "equals", some .null⟩ := by
  obtain ⟨hdocument, -, hcondition, hread⟩ := descriptions_read_back
  have hmixed : mixedInputs.Plain := by
    refine ⟨?_, by rintro ⟨⟩, by rintro ⟨⟩, by rintro ⟨⟩⟩
    intro s hs
    rcases List.mem_cons.mp hs with rfl | hs
    · refine ⟨?_, ?_, by rintro ⟨⟩⟩
      · rintro i ⟨⟩
        trivial
      · rintro o ⟨⟩
        trivial
    · obtain rfl := List.mem_singleton.mp hs
      refine ⟨?_, ?_, by rintro ⟨⟩⟩
      · rintro i ⟨⟩
        refine ⟨by decide, ?_⟩
        rintro ⟨-, hname⟩
        simp [Table.find?] at hname
      · rintro o ⟨⟩
        show Table.NamesOnce _
        decide
  have hcanonical : looselyWritten.Canonical := by
    simp only [looselyWritten, Json.Canonical, Json.CanonicalItems, Json.CanonicalFields,
      Table.Sorted, true_and, and_true]
    decide +kernel
  have hloose : Document.ofJson? looselyWritten = some firstToDelay := rfl
  refine ⟨(hdocument mixedInputs).mpr hmixed, hloose, (hread _ hcanonical).1 _ hloose, ?_,
    hcondition _⟩
  intro d s hs h
  have hplain := ((hdocument _).mp h).pipeline s List.mem_cons_self
  rcases hs with hconfig | hinput
  · exact hplain.config hconfig
  · exact (hplain.input _ hinput).2 ⟨⟨"first", rfl⟩, .inl rfl⟩

end StepPipeline
