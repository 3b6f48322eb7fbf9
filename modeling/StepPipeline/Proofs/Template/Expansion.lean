import StepPipeline.Proofs.Template.Structure

/-!
# Expanding from the environment is exact

A text asks for a variable if it is `${env.N}` as a whole, and `Environment.Sets` says so of the
text, not of how it is read: the name may be empty, and it holds no closing brace. Expanding
replaces such texts and keeps every location of a value (`at?_expand`), so everything about the
result (`Environment.Expands`) is said location by location.

The texts of the result are those of the value, each expanded (`texts_expand`). Expanding once more
leaves them alone exactly if no variable is set to a text that asks for another text
(`expand_expand_iff`).

Main statement: `expansion_exact`.
-/

namespace StepPipeline
namespace Environment

variable {env : Environment} {text value : String}

/-! ## Texts that ask for a variable -/

/-- What may stand for the name of a variable. -/
structure VariableName where
  chars : List Char
  unclosed : Template.closing ∉ chars := by decide

def VariableName.name (n : VariableName) : String := String.ofList n.chars

def VariableName.path (n : VariableName) : Template.SlotPath where
  chars := 'e' :: 'n' :: 'v' :: '.' :: n.chars
  nonempty := List.cons_ne_nil _ _
  unclosed := by
    have := n.unclosed
    simpa [Template.closing] using this

/-- The text asks, as a whole, for a variable that is set to `value`. -/
def Sets (env : Environment) (text value : String) : Prop :=
  ∃ n : VariableName, n.path.placeholder = text ∧ env n.name = some value

/-- A text asks for a variable exactly if it is one placeholder whose path begins with `env.`. -/
theorem requested?_eq_some_iff {name : String} : requested? text = some name ↔
    ∃ n : VariableName, n.name = name ∧ n.path.placeholder = text := by
  constructor
  · intro h
    obtain ⟨path, hwhole, hname⟩ := Option.bind_eq_some_iff.mp h
    obtain ⟨p, rfl, rfl⟩ := Template.whole?_eq_some_iff.mp hwhole
    rw [Template.SlotPath.name, String.toList_ofList] at hname
    split at hname
    · next chars hchars =>
      obtain ⟨_, hnonempty, hunclosed⟩ := p
      obtain rfl := hchars
      refine ⟨⟨chars, fun hmem => hunclosed ?_⟩, Option.some.inj hname, rfl⟩
      exact List.mem_append_right ['e', 'n', 'v', '.'] hmem
    · cases hname
  · rintro ⟨n, rfl, rfl⟩
    rw [requested?, Template.whole?_placeholder, Option.bind_some, Template.SlotPath.name,
      String.toList_ofList]
    rfl

theorem sets_iff : env.Sets text value ↔ (requested? text).bind env = some value := by
  rw [Option.bind_eq_some_iff]
  constructor
  · rintro ⟨n, htext, hvalue⟩
    exact ⟨n.name, requested?_eq_some_iff.mpr ⟨n, rfl, htext⟩, hvalue⟩
  · rintro ⟨name, hname, hvalue⟩
    obtain ⟨n, rfl, htext⟩ := requested?_eq_some_iff.mp hname
    exact ⟨n, htext, hvalue⟩

theorem expandText_of_sets (h : env.Sets text value) : env.expandText text = value := by
  rw [expandText, sets_iff.mp h, Option.getD_some]

theorem expandText_of_not_sets (h : ∀ value, ¬env.Sets text value) :
    env.expandText text = text := by
  have hnone : (requested? text).bind env = none :=
    Option.eq_none_iff_forall_ne_some.mpr fun value hvalue => h value (sets_iff.mpr hvalue)
  rw [expandText, hnone, Option.getD_none]

/-! ## Every location -/

theorem part?_expand (env : Environment) (v : Json) (place : Place) :
    (env.expand v).part? place = (v.part? place).map env.expand := by
  cases v with
  | obj fields =>
      rw [expand]
      cases place with
      | field name => exact Table.find?_mapValues env.expand fields name
      | item i => rfl
  | arr items =>
      rw [expand]
      cases place with
      | field name => rfl
      | item i => exact List.getElem?_map
  | _ => rw [expand] <;> cases place <;> simp [Json.part?]

/-- Expanding commutes with going to a location. -/
theorem at?_expand (env : Environment) (v : Json) (l : Location) :
    (env.expand v).at? l = (v.at? l).map env.expand := by
  induction l generalizing v with
  | nil => rfl
  | cons place l ih =>
      rw [Json.at?, Json.at?, part?_expand]
      cases v.part? place with
      | none => rfl
      | some part => exact ih part

/-- What an expanded value is at the locations of the value, and that it has no others. -/
structure Expands (env : Environment) (v w : Json) : Prop where
  located : ∀ l, (w.at? l).isSome = (v.at? l).isSome
  /-- A text that asks for a variable that is set becomes its text. -/
  replaced : ∀ l text value, v.at? l = some (.str text) → env.Sets text value →
    w.at? l = some (.str value)
  /-- Every other text stays, even if it asks for variables in a part of it. -/
  kept : ∀ l text, v.at? l = some (.str text) → (∀ value, ¬env.Sets text value) →
    w.at? l = some (.str text)
  items : ∀ l items, v.at? l = some (.arr items) →
    ∃ items', w.at? l = some (.arr items') ∧ items'.length = items.length
  fields : ∀ l fields, v.at? l = some (.obj fields) →
    ∃ fields', w.at? l = some (.obj fields') ∧ Table.keys fields' = Table.keys fields
  scalars : ∀ l part, v.at? l = some part → part.IsScalar → w.at? l = some part

theorem expands_expand (env : Environment) (v : Json) : env.Expands v (env.expand v) := by
  have hpart : ∀ l part, v.at? l = some part → (env.expand v).at? l = some (env.expand part) := by
    intro l part hpart
    rw [at?_expand, hpart, Option.map_some]
  constructor
  case located =>
    intro l
    rw [at?_expand, Option.isSome_map]
  case replaced =>
    intro l text value htext hsets
    rw [hpart l _ htext, expand, expandText_of_sets hsets]
  case kept =>
    intro l text htext hsets
    rw [hpart l _ htext, expand, expandText_of_not_sets hsets]
  case items =>
    intro l items hitems
    refine ⟨items.map env.expand, ?_, List.length_map _⟩
    rw [hpart l _ hitems, expand]
  case fields =>
    intro l fields hfields
    refine ⟨env.expandFields fields, ?_, ?_⟩
    · rw [hpart l _ hfields, expand, expandFields]
    · rw [Table.keys, expandFields, List.map_map]
      rfl
  case scalars =>
    intro l part hscalar hpartScalar
    rw [hpart l _ hscalar]
    cases part <;> simp_all [Json.IsScalar, expand]

/-! ## Expanding twice -/

/-- Expanding a value expands the texts in it, and no text comes or goes. -/
theorem texts_expand (env : Environment) (v : Json) :
    (env.expand v).texts = v.texts.map env.expandText := by
  fun_induction Environment.expand env v with
  | case1 text => simp [Json.texts]
  | case2 items ih =>
      simp only [Json.texts, List.flatMap_map, List.map_flatMap]
      rw [List.flatMap_def, List.flatMap_def, List.map_congr_left ih]
  | case3 fields ih =>
      simp only [Json.texts, List.flatMap_map, List.map_flatMap]
      rw [List.flatMap_def, List.flatMap_def, List.map_congr_left ih]
  | case4 v hstr harr hobj => cases v <;> simp_all [Json.texts]

/-- Expanding once more changes nothing exactly if no variable is set to a text that asks for a
different text. -/
theorem expand_expand_iff : (∀ v, env.expand (env.expand v) = env.expand v) ↔
    ∀ (n : VariableName) value, env n.name = some value →
      ∀ other, env.Sets value other → other = value := by
  constructor
  · intro h n value hvalue other hother
    have hsets : env.Sets n.path.placeholder value := ⟨n, rfl, hvalue⟩
    -- A single placeholder is enough to see the difference.
    have htwice := h (.str n.path.placeholder)
    rw [expand, expand, expandText_of_sets hsets, expandText_of_sets hother] at htwice
    exact Json.str.inj htwice
  · intro h v
    refine expand_eq_self_iff.mpr fun text htext => ?_
    rw [texts_expand] at htext
    obtain ⟨text, -, rfl⟩ := List.mem_map.mp htext
    by_cases hsets : ∃ value, env.Sets text value
    · obtain ⟨value, hvalue⟩ := hsets
      rw [expandText_of_sets hvalue]
      obtain ⟨n, -, hn⟩ := hvalue
      -- The text of a variable may ask again; then it has to ask for itself.
      by_cases hagain : ∃ other, env.Sets value other
      · obtain ⟨other, hother⟩ := hagain
        rw [expandText_of_sets hother, h n value hn other hother]
      · exact expandText_of_not_sets (not_exists.mp hagain)
    · rw [expandText_of_not_sets (not_exists.mp hsets),
        expandText_of_not_sets (not_exists.mp hsets)]

/-- **Expanding from the environment is exact.** It changes the texts that are `${env.N}` as a whole
with `N` set, each into the text of its variable, and leaves all names, all other leaves and the
shape of a value as they are. If no variable is set to a text that is `${env.N}` with `N` set,
expanding twice is expanding once; and expanding twice is expanding once for all values exactly if
each such text would be replaced by itself. -/
theorem expansion_exact (env : Environment) :
    (∀ v, env.Expands v (env.expand v)) ∧
    ((∀ name value, env name = some value → ∀ other, ¬env.Sets value other) →
      ∀ v, env.expand (env.expand v) = env.expand v) ∧
    ((∀ v, env.expand (env.expand v) = env.expand v) ↔
      ∀ (n : VariableName) value, env n.name = some value →
        ∀ other, env.Sets value other → other = value) := by
  refine ⟨expands_expand env, fun hfinal => expand_expand_iff.mpr ?_, expand_expand_iff⟩
  intro n value hvalue other hother
  exact absurd hother (hfinal n.name value hvalue other)

/-- Two variables are set. The one without a name is set to a text that asks for a third. -/
def localEnvironment : Environment := fun name =>
  if name = "HOST" then some "localhost" else if name = "" then some "${env.NOPE}" else none

def localContext : Json := .obj [
  ("host", .str "${env.HOST}"),
  ("more", .arr [.str "$\x7benv.\x7d", .str "url=${env.HOST}", .str "${env.NOPE}"]),
  ("on", .bool true)]

/-- The two texts that ask for what is set are replaced, once and for all. -/
theorem localContext_expands :
    (∀ name value, localEnvironment name = some value →
      ∀ other, ¬localEnvironment.Sets value other) ∧
    (localEnvironment.expand localContext).at? [.field "host"] = some (.str "localhost") ∧
    (localEnvironment.expand localContext).at? [.field "more", .item 0] =
      some (.str "${env.NOPE}") ∧
    (localEnvironment.expand localContext).at? [.field "more", .item 1] =
      some (.str "url=${env.HOST}") ∧
    localEnvironment.expand (localEnvironment.expand localContext) =
      localEnvironment.expand localContext := by
  have hfinal : ∀ name value, localEnvironment name = some value →
      ∀ other, ¬localEnvironment.Sets value other := by
    intro name value hvalue other hother
    rw [sets_iff] at hother
    have hhost : (requested? "localhost").bind localEnvironment = none := by decide +kernel
    have hnope : (requested? "${env.NOPE}").bind localEnvironment = none := by decide +kernel
    unfold localEnvironment at hvalue
    split at hvalue
    · obtain rfl := Option.some.inj hvalue
      rw [hhost] at hother
      cases hother
    · split at hvalue
      · obtain rfl := Option.some.inj hvalue
        rw [hnope] at hother
        cases hother
      · cases hvalue
  obtain ⟨hexpands, htwice, -⟩ := expansion_exact localEnvironment
  refine ⟨hfinal, ?_, ?_, ?_, htwice hfinal localContext⟩
  · refine (hexpands localContext).replaced [.field "host"] _ _ rfl (sets_iff.mpr ?_)
    decide +kernel
  · refine (hexpands localContext).replaced [.field "more", .item 0] _ _ rfl (sets_iff.mpr ?_)
    decide +kernel
  · refine (hexpands localContext).kept [.field "more", .item 1] _ rfl fun value hsets => ?_
    rw [sets_iff, show requested? "url=${env.HOST}" = none by decide +kernel] at hsets
    cases hsets

end Environment
end StepPipeline
