import StepPipeline.Proofs.Path.Frame
import StepPipeline.Proofs.Template.Substitution

/-!
# Resolving keeps the structure of a value

A value is resolved text by text, and what surrounds a text depends on it in one point only: a text
that is one placeholder may resolve to nothing (`Scope.IsUnresolved`). A record drops such a field,
an array keeps its place with `null`. What becomes of a part in its place is said once, by
`Scope.settled`; it is carried along a location to every place of a value (`at?_resolveWithin`), and
all that is said of the result (`Scope.Mirrors`) is read off from there. Values are canonical: of
two fields with one name, a location would lead to the first only.

Main statement: `resolution_keeps_structure`.
-/

namespace StepPipeline

/-- Neither a text nor made of parts. -/
def Json.IsScalar : Json → Prop
  | .null => True
  | .bool _ => True
  | .num _ => True
  | _ => False

/-! ## One place -/

namespace Scope

variable {s : Scope} {v w part : Json} {place : Place} {l : Location} {text : String}

/-- The value is one placeholder, and nothing is found for its path. -/
def IsUnresolved (s : Scope) (v : Json) : Prop :=
  ∃ p : Template.SlotPath, v = .str p.placeholder ∧ s.lookup? p.name = none

theorem resolveText_eq_none_iff : s.resolveText text = none ↔ s.IsUnresolved (.str text) := by
  constructor
  · intro h
    unfold resolveText at h
    split at h
    · next path hwhole =>
      obtain ⟨p, rfl, rfl⟩ := Template.whole?_eq_some_iff.mp hwhole
      exact ⟨p, rfl, h⟩
    · split at h <;> cases h
  · rintro ⟨p, hp, hnone⟩
    rw [Json.str.inj hp, resolveText_placeholder]
    exact hnone

/-- Nothing but an unresolved placeholder resolves to nothing. -/
theorem resolveWithin_eq_none_iff : s.resolveWithin v = none ↔ s.IsUnresolved v := by
  cases v with
  | str text => rw [resolveWithin, resolveText_eq_none_iff]
  | _ =>
      rw [resolveWithin] <;> simp [IsUnresolved]

/-- What becomes of a part in its place: a field may be dropped, an item becomes `null`. -/
def settled (s : Scope) : Place → Json → Option Json
  | .field _, part => s.resolveWithin part
  | .item _, part => some ((s.resolveWithin part).getD .null)

theorem settled_of_resolves (h : s.resolveWithin part = some w) :
    s.settled place part = some w := by
  cases place with
  | field name => exact h
  | item i => rw [settled, h, Option.getD_some]

theorem settled_eq_none_iff :
    s.settled place part = none ↔ s.IsUnresolved part ∧ ∃ name, place = .field name := by
  cases place with
  | field name => simp [settled, resolveWithin_eq_none_iff]
  | item i => simp [settled]

theorem part?_resolveWithin (hv : v.Canonical) (h : s.resolveWithin v = some w)
    (hpart : v.part? place = some part) : w.part? place = s.settled place part := by
  cases v with
  | obj fields =>
      rw [resolveWithin] at h
      obtain rfl := Option.some.inj h
      cases place with
      | field name =>
          have hfound : Table.find? fields name = some part := hpart
          show Table.find? (fields.filterMap _) name = _
          rw [Table.find?_filterMap _ hv.1.namesOnce, hfound]
          rfl
      | item i => cases hpart
  | arr items =>
      rw [resolveWithin] at h
      obtain rfl := Option.some.inj h
      cases place with
      | field name => cases hpart
      | item i =>
          have hitem : items[i]? = some part := hpart
          show (items.map _)[i]? = _
          rw [List.getElem?_map, hitem]
          rfl
  | _ => cases hpart

/-! ## Every place -/

/-- What has parts resolves to something. -/
theorem exists_of_at?_concat (s : Scope) (hpart : v.at? (l ++ [place]) = some part) :
    ∃ w, s.resolveWithin v = some w := by
  refine Option.ne_none_iff_exists'.mp fun hnone => ?_
  obtain ⟨p, rfl, -⟩ := resolveWithin_eq_none_iff.mp hnone
  -- A text has no parts.
  cases l <;> cases hpart

theorem at?_resolveWithin (hv : v.Canonical) (h : s.resolveWithin v = some w)
    (hpart : v.at? (l ++ [place]) = some part) : w.at? (l ++ [place]) = s.settled place part := by
  induction l generalizing v w with
  | nil =>
      obtain ⟨inner, hplace, hinner⟩ := Option.bind_eq_some_iff.mp hpart
      obtain rfl := Option.some.inj hinner
      rw [List.nil_append, Json.at?, part?_resolveWithin hv h hplace]
      cases s.settled place inner <;> rfl
  | cons outer l ih =>
      obtain ⟨inner, hinner, hrest⟩ := Option.bind_eq_some_iff.mp hpart
      -- The location goes on into this part, so it is no placeholder and stays in its place.
      obtain ⟨w', hw'⟩ := exists_of_at?_concat s hrest
      rw [List.cons_append, Json.at?, part?_resolveWithin hv h hinner, settled_of_resolves hw']
      exact ih (hv.part? hinner) hw' hrest

/-- Wherever a part that resolves to something stands, there stands what it resolves to. -/
theorem at?_of_resolves (hv : v.Canonical) (h : s.resolveWithin v = some w)
    (hpart : v.at? l = some part) {value : Json} (hvalue : s.resolveWithin part = some value) :
    w.at? l = some value := by
  rcases List.eq_nil_or_concat l with rfl | ⟨outer, place, rfl⟩
  · obtain rfl := Option.some.inj hpart
    exact h.symm.trans hvalue
  · -- A part that resolves to something is not dropped, wherever it stands.
    rw [List.concat_eq_append] at hpart ⊢
    rw [at?_resolveWithin hv h hpart, settled_of_resolves hvalue]

/-! ## The whole result -/

/-- What a result has of the structure of the value that was resolved. -/
structure Mirrors (s : Scope) (v w : Json) : Prop where
  /-- Every location stays, but for fields that do not resolve. -/
  located : ∀ l part, v.at? l = some part →
    ((w.at? l).isSome = true ↔ ¬(s.IsUnresolved part ∧ ∃ outer name, l = outer ++ [.field name]))
  /-- A text is replaced by what it resolves to, and this by nothing. -/
  texts : ∀ l text value, v.at? l = some (.str text) → s.resolve (.str text) = some value →
    ∀ below, w.at? (l ++ below) = value.at? below
  /-- An item that does not resolve keeps its place. -/
  emptied : ∀ l i part, v.at? (l ++ [.item i]) = some part → s.IsUnresolved part →
    w.at? (l ++ [.item i]) = some .null
  items : ∀ l items, v.at? l = some (.arr items) →
    ∃ items', w.at? l = some (.arr items') ∧ items'.length = items.length
  /-- A record gets no names, and which ones it loses is said above. -/
  fields : ∀ l fields, v.at? l = some (.obj fields) →
    ∃ fields', w.at? l = some (.obj fields') ∧
      (Table.keys fields').Sublist (Table.keys fields)
  scalars : ∀ l part, v.at? l = some part → part.IsScalar → w.at? l = some part

theorem isSome_at?_iff (hv : v.Canonical) (h : s.resolveWithin v = some w)
    (hpart : v.at? l = some part) : (w.at? l).isSome = true ↔
      ¬(s.IsUnresolved part ∧ ∃ outer name, l = outer ++ [.field name]) := by
  rcases List.eq_nil_or_concat l with rfl | ⟨outer, place, rfl⟩
  · simp [Json.at?]
  · -- The value as a whole is no field, and of a part its last step says whether it is one.
    rw [List.concat_eq_append] at hpart ⊢
    rw [at?_resolveWithin hv h hpart, Option.isSome_iff_ne_none, ne_eq, settled_eq_none_iff]
    simp

theorem keys_resolveFields (s : Scope) (fields : Record) :
    (Table.keys (s.resolveFields fields)).Sublist (Table.keys fields) := by
  induction fields with
  | nil => exact .slnil
  | cons e rest ih =>
      rw [resolveFields, List.filterMap_cons]
      cases s.resolveWithin e.2 with
      | none => exact .cons _ ih
      | some value => exact .cons_cons _ ih

theorem mirrors_of_resolveWithin (hv : v.Canonical) (h : s.resolveWithin v = some w) :
    s.Mirrors v w := by
  constructor
  case located => exact fun l part hpart => isSome_at?_iff hv h hpart
  case texts =>
    intro l text value hpart hvalue below
    have htext : s.resolveWithin (.str text) = some value := by
      rw [resolveWithin]
      exact hvalue
    rw [Json.at?_append, at?_of_resolves hv h hpart htext, Option.bind_some]
  case emptied =>
    intro l i part hpart hnone
    rw [at?_resolveWithin hv h hpart, settled, resolveWithin_eq_none_iff.mpr hnone]
    rfl
  case items =>
    intro l items hpart
    exact ⟨_, at?_of_resolves hv h hpart (by rw [resolveWithin]), List.length_map _⟩
  case fields =>
    intro l fields hpart
    refine ⟨s.resolveFields fields, at?_of_resolves hv h hpart ?_, keys_resolveFields s fields⟩
    rw [resolveWithin, resolveFields]
  case scalars =>
    intro l part hpart hscalar
    refine at?_of_resolves hv h hpart ?_
    cases part <;> simp_all [Json.IsScalar, resolveWithin]

end Scope

/-- **Resolving keeps the structure of a value.** Only an unresolved placeholder resolves to
nothing. Otherwise the result has every location of the value, except those of fields that are
unresolved placeholders: arrays keep their lengths, records get no names, an item that is an
unresolved placeholder becomes `null`, every other text becomes what it resolves to, which is not
resolved again, and scalars stay. A value whose texts hold no placeholders and name no slots is
returned as it is. -/
theorem resolution_keeps_structure (s : Scope) (v : Json) :
    (s.resolveWithin v = none ↔ s.IsUnresolved v) ∧
    (v.Canonical → ∀ w, s.resolveWithin v = some w → s.Mirrors v w) ∧
    ((∀ text ∈ v.texts, Template.hasSlot text = false ∧ s.bus.get? text = none) →
      s.resolveWithin v = some v) := by
  refine ⟨Scope.resolveWithin_eq_none_iff, fun hv w h => Scope.mirrors_of_resolveWithin hv h,
    fun hplain => ?_⟩
  refine Scope.resolveWithin_eq_self_iff.mpr fun text htext => ?_
  obtain ⟨hslot, hname⟩ := hplain text htext
  rw [Scope.resolveText_of_not_hasSlot hslot, hname]
  rfl

/-- A record with an unresolved placeholder as a field and as an item, and one for a value that
looks like a template itself. -/
def searchBody : Json := .obj [
  ("gone", .str "${missing}"),
  ("list", .arr [.str "${missing}", .bool true, .str "${query}"]),
  ("note", .null)]

def searchScope : Scope := ⟨[("query", .obj [("raw", .str "${missing}")])], {}⟩

def resolvedBody : Json := .obj [
  ("list", .arr [.null, .bool true, .obj [("raw", .str "${missing}")]]),
  ("note", .null)]

/-- The field is dropped, the item keeps its place, and the inserted template stays. -/
theorem searchBody_keeps_structure :
    searchBody.Canonical ∧ searchScope.resolveWithin searchBody = some resolvedBody ∧
    (resolvedBody.at? [.field "gone"]).isSome = false ∧
    resolvedBody.at? [.field "list", .item 0] = some .null ∧
    resolvedBody.at? [.field "list", .item 2, .field "raw"] = some (.str "${missing}") ∧
    (∀ text ∈ (Json.arr [.str "query"]).texts,
      Template.hasSlot text = false ∧ searchScope.bus.get? text = none) ∧
    searchScope.resolveWithin (.arr [.str "query"]) = some (.arr [.str "query"]) := by
  have hcanonical : searchBody.Canonical := by
    refine ⟨Table.sorted_iff_keys.mpr (by decide), ?_⟩
    simp [Json.CanonicalFields, Json.Canonical, Json.CanonicalItems]
  have hmissing : searchScope.IsUnresolved (.str "${missing}") :=
    ⟨⟨"missing".toList, by decide, by decide⟩, congrArg Json.str (by decide), rfl⟩
  have hquery : searchScope.resolveText "${query}" = some (.obj [("raw", .str "${missing}")]) := by
    have hwhole : Template.whole? "${query}" = some "query" := by decide +kernel
    rw [Scope.resolveText, hwhole]
    rfl
  have hresolved : searchScope.resolveWithin searchBody = some resolvedBody := by
    simp [searchBody, resolvedBody, Scope.resolveWithin, hquery,
      Scope.resolveText_eq_none_iff.mpr hmissing]
  have hplain : ∀ text ∈ (Json.arr [.str "query"]).texts,
      Template.hasSlot text = false ∧ searchScope.bus.get? text = none := by
    simp only [Json.texts, List.flatMap_singleton, List.forall_mem_singleton]
    exact ⟨by decide +kernel, rfl⟩
  have hmirrors := (resolution_keeps_structure searchScope searchBody).2.1 hcanonical _ hresolved
  refine ⟨hcanonical, hresolved, ?_, hmirrors.emptied [.field "list"] 0 _ rfl hmissing, ?_, hplain,
    (resolution_keeps_structure searchScope _).2.2 hplain⟩
  · rw [Bool.eq_false_iff, ne_eq, hmirrors.located [.field "gone"] _ rfl]
    exact not_not_intro ⟨hmissing, [], "gone", rfl⟩
  · exact hmirrors.texts [.field "list", .item 2] _ _ rfl hquery [.field "raw"]

end StepPipeline
