import StepPipeline.Document.Basic
import StepPipeline.Proofs.Json.Canonical
import StepPipeline.Proofs.Json.Fields

/-!
# What is read of a document

A description is read field by field; `ReadFrom` lists what is taken from the fields of a value, and
`ofJson?_eq_some_iff` says that this is all that reading does.

The records of a description are tables that were written in a text, and a text may give a name
twice. Where a structure could stand, such a record keeps both entries for a while
(`Shape.keepRepeated`); but a record of inputs keeps the last entry of each name, and any other
record was read as a plain value. Main statements: `namesOnce_of_parse?`, no step of a document that
was read from a text has a record with a name twice, and `outputSorted_of_parse?`, its output
mapping is in the order of the fields.
-/

namespace StepPipeline

/-- A value that some text of a shape denotes, or that was read as a plain value. -/
def Shape.Denotes (shape : Shape) (v : Json) : Prop :=
  (∃ (w : Written) (depth : Nat), w.shaped? shape depth = some v) ∨ v.Canonical

namespace Written

/-- The items of a list are read with the shape of its items. -/
theorem denotes_of_mem_shapedItems? {ws : List Written} {item : Shape} {depth : Nat}
    {vs : List Json} (h : shapedItems? ws item depth = some vs) : ∀ v ∈ vs, item.Denotes v := by
  induction ws generalizing vs with
  | nil =>
      rw [shapedItems?] at h
      obtain rfl := Option.some.inj h
      exact fun v hv => by cases hv
  | cons w rest ih =>
      rw [shapedItems?] at h
      obtain ⟨v, hv, h⟩ := Option.bind_eq_some_iff.mp h
      obtain ⟨vs', hvs, h⟩ := Option.bind_eq_some_iff.mp h
      obtain rfl := Option.some.inj h
      exact List.forall_mem_cons.mpr ⟨.inl ⟨w, depth, hv⟩, ih hvs⟩

/-- A field is read with the shape that the structure has for its name. -/
theorem denotes_of_shapedFields? {entries : List (Option String × Written)}
    {shapes : List (String × Shape)} {depth : Nat} {fields : List (String × Json)}
    (h : shapedFields? entries shapes depth = some fields) {name : String} {shape : Shape}
    {v : Json} (hshape : Shape.field? shapes name = some shape)
    (hv : Table.find? fields name = some v) : shape.Denotes v := by
  induction entries generalizing fields with
  | nil =>
      rw [shapedFields?] at h
      obtain rfl := Option.some.inj h
      cases hv
  | cons e rest ih =>
      obtain ⟨key, w⟩ := e
      cases key with
      | none => cases h
      | some key =>
          rw [shapedFields?] at h
          split at h
          · next found hfound =>
            obtain ⟨u, hu, h⟩ := Option.bind_eq_some_iff.mp h
            obtain ⟨us, hus, h⟩ := Option.bind_eq_some_iff.mp h
            obtain rfl := Option.some.inj h
            rw [Table.find?_cons] at hv
            split at hv
            · next hkey =>
              subst hkey
              obtain rfl := Option.some.inj hv
              obtain rfl := Option.some.inj (hfound.symm.trans hshape)
              exact .inl ⟨w, depth, hu⟩
            · exact ih hus hv
          · -- No field of the structure: it was skipped whatever it holds.
            exact ih h hv

/-- An array gives its items to the fields in the order of the shapes. -/
theorem denotes_of_shapedPositions? {shapes : List (String × Shape)} {ws : List Written}
    {depth : Nat} {vs : List Json}
    (h : shapedPositions? ws (shapes.map (·.2)) depth = some vs) {name : String} {shape : Shape}
    {v : Json} (hshape : Shape.field? shapes name = some shape)
    (hv : Table.find? ((shapes.map (·.1)).zip vs) name = some v) : shape.Denotes v := by
  -- Names, shapes and values run in parallel, and the texts may end before the names do.
  induction shapes generalizing ws vs with
  | nil => cases hv
  | cons s rest ih =>
      obtain ⟨key, first⟩ := s
      cases ws with
      | nil =>
          rw [shapedPositions?] at h
          obtain rfl := Option.some.inj h
          cases hv
      | cons w ws =>
          rw [shapedPositions?] at h
          obtain ⟨u, hu, h⟩ := Option.bind_eq_some_iff.mp h
          obtain ⟨us, hus, h⟩ := Option.bind_eq_some_iff.mp h
          obtain rfl := Option.some.inj h
          rw [List.map_cons, List.zip_cons_cons, Table.find?_cons] at hv
          split at hv
          · next hkey =>
            subst hkey
            obtain rfl := Option.some.inj hv
            have hfirst : Shape.field? ((key, first) :: rest) key = some first := by
              simp [Shape.field?]
            obtain rfl := Option.some.inj (hfirst.symm.trans hshape)
            exact .inl ⟨w, depth, hu⟩
          · next hkey =>
            refine ih hus ?_ hv
            simpa [Shape.field?, hkey] using hshape

end Written

namespace Shape

variable {v : Json}

/-- What may be anything was read as a plain value, with every name once. -/
theorem Denotes.canonical (h : any.Denotes v) : v.Canonical := by
  rcases h with ⟨w, depth, hw⟩ | hcanonical
  · refine Written.canonical_of_value? w depth ?_
    rw [← hw]
    cases w <;> cases depth <;> rfl
  · exact hcanonical

/-- At the greatest depth there are no structures, so everything is read as a plain value. -/
theorem canonical_of_shaped?_zero {w : Written} {shape : Shape} (h : w.shaped? shape 0 = some v) :
    v.Canonical := by
  refine Written.canonical_of_value? w 0 ?_
  rw [← h]
  cases w <;> cases shape <;> rfl

/-- The fields of a canonical value are canonical. -/
theorem canonical_of_field (h : v.Canonical) {names : List String}
    {fields : List (String × Json)} (hfields : v.fields? names = some fields) {name : String}
    {c : Json} (hc : Table.find? fields name = some c) : c.Canonical := by
  have hmem : (name, c) ∈ fields := Table.mem_of_find? hc
  unfold Json.fields? at hfields
  split at hfields
  · split at hfields
    · obtain rfl := Option.some.inj hfields
      exact Json.canonicalFields_iff.mp h.2 _ hmem
    · cases hfields
  · split at hfields
    · obtain rfl := Option.some.inj hfields
      exact Json.canonicalItems_iff.mp h _ (List.of_mem_zip hmem).2
    · cases hfields
  · cases hfields

/-- The fields of a structure are of their shapes. -/
theorem Denotes.field {shapes : List (String × Shape)} (h : (Shape.structure shapes).Denotes v)
    {fields : List (String × Json)} (hfields : v.fields? (shapes.map (·.1)) = some fields)
    {name : String} {shape : Shape} (hshape : field? shapes name = some shape) {c : Json}
    (hc : Table.find? fields name = some c) : shape.Denotes c := by
  rcases h with ⟨w, depth, hw⟩ | hcanonical
  · cases depth with
    | zero => exact .inr (canonical_of_field (canonical_of_shaped?_zero hw) hfields hc)
    | succ depth =>
        cases w with
        | arr items =>
            obtain ⟨vs, hvs, rfl⟩ := Option.map_eq_some_iff.mp hw
            rw [Json.fields?] at hfields
            split at hfields
            · obtain rfl := Option.some.inj hfields
              exact Written.denotes_of_shapedPositions? hvs hshape hc
            · cases hfields
        | obj entries =>
            obtain ⟨es, hes, rfl⟩ := Option.map_eq_some_iff.mp hw
            rw [Json.fields?] at hfields
            split at hfields
            · obtain rfl := Option.some.inj hfields
              exact Written.denotes_of_shapedFields? hes hshape hc
            · cases hfields
        | _ =>
            have hcanonical := Written.canonical_of_value? _ (depth + 1) hw
            exact .inr (canonical_of_field hcanonical hfields hc)
  · exact .inr (canonical_of_field hcanonical hfields hc)

/-- The items of a list are of its shape. -/
theorem Denotes.item {item : Shape} {items : List Json} (h : (list item).Denotes (.arr items)) :
    ∀ v ∈ items, item.Denotes v := by
  have hplain : (Json.arr items).Canonical → ∀ v ∈ items, item.Denotes v :=
    fun hcanonical v hv => .inr (Json.canonicalItems_iff.mp hcanonical v hv)
  rcases h with ⟨w, depth, hw⟩ | hcanonical
  · cases depth with
    | zero => exact hplain (canonical_of_shaped?_zero hw)
    | succ depth =>
        cases w with
        | arr ws =>
            obtain ⟨vs, hvs, heq⟩ := Option.map_eq_some_iff.mp hw
            obtain rfl := Json.arr.inj heq
            exact Written.denotes_of_mem_shapedItems? hvs
        | _ => exact hplain (Written.canonical_of_value? _ (depth + 1) hw)
  · exact hplain hcanonical

/-- What may have been a structure ends with sorted entries. The entries before them are there only
if a name was given twice, and all of their names occur again. -/
theorem Denotes.exists_sorted {fields : List (String × Json)}
    (h : maybeStructure.Denotes (.obj fields)) : ∃ front sorted, fields = front ++ sorted ∧
      Table.Sorted sorted ∧ ∀ e ∈ front, e.1 ∈ Table.keys sorted := by
  have hplain : (Json.obj fields).Canonical → ∃ front sorted, fields = front ++ sorted ∧
      Table.Sorted sorted ∧ ∀ e ∈ front, e.1 ∈ Table.keys sorted :=
    fun hcanonical => ⟨[], fields, rfl, hcanonical.1, fun e he => by cases he⟩
  rcases h with ⟨w, depth, hw⟩ | hcanonical
  · cases depth with
    | zero => exact hplain (canonical_of_shaped?_zero hw)
    | succ depth =>
        cases w with
        | obj entries =>
            obtain ⟨es, -, heq⟩ := Option.map_eq_some_iff.mp hw
            obtain rfl := Json.obj.inj heq
            refine ⟨_, Table.ofList es, rfl, Table.sorted_ofList es, fun e he => ?_⟩
            apply Table.mem_keys_overlay
            split at he
            · cases he
            · exact List.mem_map_of_mem he
        | _ => exact hplain (Written.canonical_of_value? _ (depth + 1) hw)
  · exact hplain hcanonical

end Shape

/-! ## Steps -/

/-- A description in which no record has a name twice. -/
structure StepDescription.NamesOnce (spec : StepDescription) : Prop where
  config : ∀ fields, spec.configFields? = some fields → Table.NamesOnce fields
  input : ∀ fields, spec.input = some (.record fields) → Table.NamesOnce fields

/-- Every step is given every name once, as by any document that was read. -/
def Document.NamesOnce (d : Document) : Prop := ∀ spec ∈ d.pipeline, spec.NamesOnce

/-- The fields of a mapping come in their order. -/
def StepDescription.OutputSorted (spec : StepDescription) : Prop :=
  ∀ slots, spec.output = some (.mapping slots) → Table.Sorted slots

namespace InputSource

variable {v : Json} {fields : Record}

theorem exists_of_source? {i : InputSource} (h : source? v = some i) :
    ∃ path name, i = .source path name := by
  obtain ⟨_, -, h⟩ := Option.bind_eq_some_iff.mp h
  obtain ⟨path, -, h⟩ := Option.bind_eq_some_iff.mp h
  obtain ⟨name, -, h⟩ := Option.bind_eq_some_iff.mp h
  exact ⟨path, name, (Option.some.inj h).symm⟩

/-- A record is read from what is no source. -/
theorem ofJson?_eq_record_iff : ofJson? v = some (.record fields) ↔
    ∃ entries, v = .obj entries ∧ source? v = none ∧ Table.lastWins entries = fields := by
  constructor
  · intro h
    unfold ofJson? at h
    split at h
    · cases h
    · next entries =>
      cases hsource : source? (.obj entries) with
      | none =>
          rw [hsource] at h
          exact ⟨entries, rfl, rfl, InputSource.record.inj (Option.some.inj h)⟩
      | some i =>
          rw [hsource] at h
          obtain ⟨_, _, rfl⟩ := exists_of_source? hsource
          cases h
    · cases h
  · rintro ⟨entries, rfl, hsource, rfl⟩
    show some ((source? (.obj entries)).getD _) = _
    rw [hsource]
    rfl

/-- A record of inputs keeps the last entry of each name. -/
theorem namesOnce_of_ofJson? (h : ofJson? v = some (.record fields)) : Table.NamesOnce fields := by
  obtain ⟨entries, -, -, rfl⟩ := ofJson?_eq_record_iff.mp h
  exact Table.namesOnce_lastWins entries

end InputSource

/-! ### Outputs -/

namespace OutputTarget

/-- Reading the entries of a mapping keeps their names. -/
theorem keys_of_slots? {fields : List (String × Json)} {slots : Table String}
    (h : slots? fields = some slots) : Table.keys slots = Table.keys fields := by
  induction fields generalizing slots with
  | nil =>
      obtain rfl := Option.some.inj h
      rfl
  | cons e rest ih =>
      rw [slots?, List.mapM_cons] at h
      obtain ⟨f, hf, h⟩ := Option.bind_eq_some_iff.mp h
      obtain ⟨others, hothers, h⟩ := Option.bind_eq_some_iff.mp h
      obtain rfl := Option.some.inj h
      obtain ⟨s, -, rfl⟩ := Option.map_eq_some_iff.mp hf
      show e.1 :: Table.keys others = e.1 :: Table.keys rest
      rw [ih hothers]

/-- An output mapping is sorted, even if its text gives a field twice. -/
theorem sorted_of_ofJson? {v : Json} (hread : Shape.maybeStructure.Denotes v)
    {slots : Table String} (h : ofJson? v = some (.mapping slots)) : Table.Sorted slots := by
  unfold ofJson? at h
  split at h
  · cases h
  · obtain ⟨entries, hentries, heq⟩ := Option.map_eq_some_iff.mp h
    obtain rfl := OutputTarget.mapping.inj heq
    obtain ⟨front, sorted, rfl, hsorted, hfront⟩ := hread.exists_sorted
    rw [slots?, List.mapM_append] at hentries
    obtain ⟨first, hfirst, hentries⟩ := Option.bind_eq_some_iff.mp hentries
    obtain ⟨second, hsecond, hentries⟩ := Option.bind_eq_some_iff.mp hentries
    obtain rfl := Option.some.inj hentries
    have hkeys : Table.keys second = Table.keys sorted := keys_of_slots? hsecond
    have hsecond : Table.Sorted second := by
      rw [Table.sorted_iff_keys, hkeys]
      exact Table.sorted_iff_keys.mp hsorted
    rw [Table.lastWins_append, Table.lastWins_of_namesOnce hsecond.namesOnce]
    · exact hsecond
    · intro e he
      have hmem : e.1 ∈ Table.keys front :=
        keys_of_slots? hfirst ▸ List.mem_map_of_mem he
      obtain ⟨f, hf, hname⟩ := List.mem_map.mp hmem
      rw [hkeys, ← hname]
      exact hfront f hf
  · cases h

end OutputTarget

namespace StepDescription

/-- The fields that a step is read from, each by its own reader. -/
structure ReadFrom (spec : StepDescription) (fields : List (String × Json)) : Prop where
  block : Json.textField? fields "block" = some spec.block
  id : Json.optionalText? fields "id" = some spec.id
  input : optional? InputSource.ofJson? (Table.find? fields "input") = some spec.input
  output : optional? OutputTarget.ofJson? (Table.find? fields "output") = some spec.output
  config : Json.optionalValue fields "config" = spec.config

variable {v : Json} {spec : StepDescription}

/-- Reading a step is reading its fields, and fails with the first that cannot be read. -/
theorem ofJson?_eq_some_iff : ofJson? v = some spec ↔
    ∃ fields, v.fields? fieldNames = some fields ∧ spec.ReadFrom fields := by
  constructor
  · intro h
    obtain ⟨fields, hfields, h⟩ := Option.bind_eq_some_iff.mp h
    obtain ⟨block, hblock, h⟩ := Option.bind_eq_some_iff.mp h
    obtain ⟨id, hid, h⟩ := Option.bind_eq_some_iff.mp h
    obtain ⟨input, hinput, h⟩ := Option.bind_eq_some_iff.mp h
    obtain ⟨output, houtput, h⟩ := Option.bind_eq_some_iff.mp h
    obtain rfl := Option.some.inj h
    exact ⟨fields, hfields, hblock, hid, hinput, houtput, rfl⟩
  · rintro ⟨fields, hfields, hread⟩
    simp only [ofJson?, hfields, hread.block, hread.id, hread.input, hread.output, hread.config,
      Option.bind_eq_bind, Option.bind_some]

/-- An optional part that is there was read from a value. -/
theorem optional?_eq_some {α : Type} {read : Json → Option α} {found : Option Json} {a : α}
    (h : optional? read found = some (some a)) : ∃ v, found = some v ∧ read v = some a := by
  unfold optional? at h
  split at h
  · cases h
  · cases h
  · obtain ⟨b, hb, heq⟩ := Option.map_eq_some_iff.mp h
    obtain rfl := Option.some.inj heq
    exact ⟨_, rfl, hb⟩

/-- The `config` is no structure of the description, so it keeps no name twice. -/
theorem config_canonical (hread : shape.Denotes v) (h : ofJson? v = some spec)
    {config : Json} (hconfig : spec.config = some config) : config.Canonical := by
  obtain ⟨fields, hfields, hspec⟩ := ofJson?_eq_some_iff.mp h
  have hfound := Json.find?_of_optionalValue (hspec.config.trans hconfig)
  have hany : Shape.any.Denotes config := hread.field hfields rfl hfound
  exact hany.canonical

/-- Reading a step of its shape leaves no name twice, in the `config` by its shape and in the inputs
by what is kept. -/
theorem namesOnce_of_ofJson? (hread : shape.Denotes v) (h : ofJson? v = some spec) :
    spec.NamesOnce := by
  constructor
  · intro fields hfields
    obtain ⟨config, hconfig, hrecord⟩ := Option.bind_eq_some_iff.mp hfields
    have hcanonical := config_canonical hread h hconfig
    cases config with
    | obj entries =>
        obtain rfl := Option.some.inj hrecord
        exact hcanonical.1.namesOnce
    | _ => cases hrecord
  · intro fields hinput
    obtain ⟨_, -, hspec⟩ := ofJson?_eq_some_iff.mp h
    obtain ⟨source, -, hsource⟩ := optional?_eq_some (hinput ▸ hspec.input)
    exact InputSource.namesOnce_of_ofJson? hsource

/-- The mapping is read from something that may have been a structure, and keeps its order. -/
theorem outputSorted_of_ofJson? (hread : shape.Denotes v) (h : ofJson? v = some spec) :
    spec.OutputSorted := by
  intro slots hslots
  obtain ⟨fields, hfields, hspec⟩ := ofJson?_eq_some_iff.mp h
  obtain ⟨target, hfound, htarget⟩ := optional?_eq_some (hslots ▸ hspec.output)
  exact OutputTarget.sorted_of_ofJson? (hread.field hfields rfl hfound) htarget

end StepDescription

/-! ## Documents -/

namespace Document

/-- The fields that a document is read from, each by its own reader. -/
structure ReadFrom (d : Document) (fields : List (String × Json)) : Prop where
  name : Json.optionalText? fields "name" = some d.name
  version : Json.optionalValue fields "version" = d.version
  description : Json.optionalText? fields "description" = some d.description
  context : Json.recordField? fields "context" = some d.context
  pipeline : (Json.listField? fields "pipeline").bind StepDescription.listOfJson? =
    some d.pipeline
  input : Json.optionalValue fields "input" = d.input
  output : Json.optionalValue fields "output" = d.output
  assertions : Json.listField? fields "assertions" = some d.assertions

variable {v : Json} {d : Document}

/-- Reading a document is reading its fields and each of its steps. -/
theorem ofJson?_eq_some_iff : ofJson? v = some d ↔
    ∃ fields, v.fields? fieldNames = some fields ∧ d.ReadFrom fields := by
  constructor
  · intro h
    obtain ⟨fields, hfields, h⟩ := Option.bind_eq_some_iff.mp h
    obtain ⟨name, hname, h⟩ := Option.bind_eq_some_iff.mp h
    obtain ⟨description, hdescription, h⟩ := Option.bind_eq_some_iff.mp h
    obtain ⟨context, hcontext, h⟩ := Option.bind_eq_some_iff.mp h
    obtain ⟨items, hitems, h⟩ := Option.bind_eq_some_iff.mp h
    obtain ⟨pipeline, hpipeline, h⟩ := Option.bind_eq_some_iff.mp h
    obtain ⟨assertions, hassertions, h⟩ := Option.bind_eq_some_iff.mp h
    obtain rfl := Option.some.inj h
    exact ⟨fields, hfields, hname, rfl, hdescription, hcontext,
      Option.bind_eq_some_iff.mpr ⟨items, hitems, hpipeline⟩, rfl, rfl, hassertions⟩
  · rintro ⟨fields, hfields, hread⟩
    obtain ⟨items, hitems, hpipeline⟩ := Option.bind_eq_some_iff.mp hread.pipeline
    simp only [ofJson?, hfields, hread.name, hread.version, hread.description, hread.context,
      hitems, hpipeline, hread.input, hread.output, hread.assertions, Option.bind_eq_bind,
      Option.bind_some]

/-- The steps of a document are read from the items of its list. -/
theorem exists_item_of_ofJson? (h : ofJson? v = some d) {spec : StepDescription}
    (hspec : spec ∈ d.pipeline) : ∃ fields items item, v.fields? fieldNames = some fields ∧
      Table.find? fields "pipeline" = some (.arr items) ∧ item ∈ items ∧
      StepDescription.ofJson? item = some spec := by
  obtain ⟨fields, hfields, hread⟩ := ofJson?_eq_some_iff.mp h
  obtain ⟨items, hitems, hpipeline⟩ := Option.bind_eq_some_iff.mp hread.pipeline
  obtain ⟨item, hmem, hitem⟩ := List.exists_of_mem_mapM hpipeline hspec
  exact ⟨fields, items, item, hfields, Json.find?_of_mem_listField? hitems hmem, hmem, hitem⟩

/-- A step of a document that was read from a text was read from something of its shape. -/
theorem exists_denotes_of_parse? {text : String} (h : parse? text = some d)
    {spec : StepDescription} (hspec : spec ∈ d.pipeline) :
    ∃ item, StepDescription.shape.Denotes item ∧ StepDescription.ofJson? item = some spec := by
  obtain ⟨v, hv, hread⟩ := Option.bind_eq_some_iff.mp h
  obtain ⟨w, -, hw⟩ := Option.bind_eq_some_iff.mp hv
  obtain ⟨fields, items, item, hfields, hitems, hmem, hitem⟩ := exists_item_of_ofJson? hread hspec
  have hdenotes : shape.Denotes v := .inl ⟨w, Written.maxDepth, hw⟩
  have hlist : (Shape.list StepDescription.shape).Denotes (.arr items) :=
    hdenotes.field hfields rfl hitems
  exact ⟨item, hlist.item item hmem, hitem⟩

/-- The context of a document that was read from a text is in order. -/
theorem sorted_context_of_parse? {text : String} (h : parse? text = some d) :
    Table.Sorted d.context := by
  obtain ⟨v, hv, hread⟩ := Option.bind_eq_some_iff.mp h
  obtain ⟨w, -, hw⟩ := Option.bind_eq_some_iff.mp hv
  obtain ⟨fields, hfields, hread⟩ := ofJson?_eq_some_iff.mp hread
  have hcontext := hread.context
  unfold Json.recordField? at hcontext
  split at hcontext
  · rw [← Option.some.inj hcontext]
    exact Table.sorted_nil
  · next c hc =>
    have hdenotes : shape.Denotes v := .inl ⟨w, Written.maxDepth, hw⟩
    have hany : Shape.any.Denotes c := hdenotes.field hfields rfl hc
    cases c with
    | obj entries =>
        rw [← Option.some.inj hcontext]
        exact hany.canonical.1
    | _ => cases hcontext

/-- **Names once.** In no record of a step of a document that was read from a text does a name
occur twice. -/
theorem namesOnce_of_parse? {text : String} (h : parse? text = some d) : d.NamesOnce := by
  intro spec hspec
  obtain ⟨item, hdenotes, hitem⟩ := exists_denotes_of_parse? h hspec
  exact StepDescription.namesOnce_of_ofJson? hdenotes hitem

/-- **Sorted outputs.** Every mapping of a document that was read from a text is sorted. -/
theorem outputSorted_of_parse? {text : String} (h : parse? text = some d)
    {spec : StepDescription} (hspec : spec ∈ d.pipeline) : spec.OutputSorted := by
  obtain ⟨item, hdenotes, hitem⟩ := exists_denotes_of_parse? h hspec
  exact StepDescription.outputSorted_of_ofJson? hdenotes hitem

end Document
end StepPipeline
