import StepPipeline.Proofs.Path.Writing
import StepPipeline.Proofs.Store.Names

/-!
# What a write leaves alone

A path says differently in different values where it leads: `a.0` is an item of an array and a field
of a record. A location (`Location`) is a place in one value, a chain of fields and items, and
`Json.locate?` finds the one that a path leads to. What a write does to a value is said location by
location (`Json.Frame`). Above and below its goal it changes what it has to; elsewhere it fills
up arrays with `null`, and it drops the items of an array that it enters by a name which is no
position in it. All the rest stays, and nothing else is added.

Writing back what is read changes nothing (`setAt_of_getAt?`), unless an array is entered by a
dotted number that writing does not take for a position.

Main statement: `frame_of_set`.
-/

namespace StepPipeline

/-! ## Locations -/

/-- One step down into a value, with the position of an item as a number and not as it was
written. -/
inductive Place where
  | field (name : String)
  | item (position : Nat)
  deriving DecidableEq

/-- The way to a place inside one value, from the outside in. -/
abbrev Location := List Place

namespace Json

def part? : Json → Place → Option Json
  | .obj fields, .field name => Table.find? fields name
  | .arr items, .item i => items[i]?
  | _, _ => none

def at? : Json → Location → Option Json
  | v, [] => some v
  | v, place :: rest => (v.part? place).bind fun part => at? part rest

def place? : Json → Segment → Option Place
  | .obj _, s => some (.field s.toKey)
  | .arr _, s => s.toIndex?.map .item
  | _, _ => none

def locate? : Json → Path → Option Location
  | _, [] => some []
  | v, s :: rest =>
    (v.place? s).bind fun place => (v.part? place).bind fun part =>
      (locate? part rest).map (place :: ·)

/-- The number of items of the array at a location; there are none if there is no array. -/
def itemsAt (root : Json) (l : Location) : Nat :=
  (((root.at? l).bind asItems?).getD []).length

/-- A write at a path replaces the array at a location by a record: it is entered by a name that
is not taken for a position. -/
inductive ReplacesArray : Json → Path → Location → Prop
  | here {items : List Json} {name : String} {rest : Path}
      (hname : ∀ i, (Segment.key name).toIndex? = some i → maxPosition < i) :
      ReplacesArray (.arr items) (.key name :: rest) []
  | field {fields : Record} {s : Segment} {rest : Path} {part : Json} {l : Location}
      (hpart : Table.find? fields s.toKey = some part) (h : part.ReplacesArray rest l) :
      ReplacesArray (.obj fields) (s :: rest) (.field s.toKey :: l)
  | item {items : List Json} {s : Segment} {rest : Path} {i : Nat} {part : Json} {l : Location}
      (hi : s.toIndex? = some i) (hle : i ≤ maxPosition) (hpart : items[i]? = some part)
      (h : part.ReplacesArray rest l) : ReplacesArray (.arr items) (s :: rest) (.item i :: l)

/-- What a write at a path does to a value besides putting the new value at its goal. -/
structure Frame (root new : Json) (p : Path) (goal : Location) : Prop where
  /-- What is neither above the goal nor below it stays, unless an array that it is in is
  replaced. -/
  kept : ∀ l v, root.at? l = some v → ¬l <+: goal → ¬goal <+: l →
    (∀ outer, root.ReplacesArray p outer → ¬outer <+: l) → new.at? l = some v
  /-- Only arrays above the goal are replaced, and then there is a record. -/
  replaced : ∀ outer, root.ReplacesArray p outer → outer <+: goal ∧
    ∃ fields, new.at? outer = some (.obj fields)
  /-- An array reaches up to the position at which it is entered, filled up with `null`. -/
  grown : ∀ outer i, outer ++ [.item i] <+: goal → ∃ items, new.at? outer = some (.arr items) ∧
    items.length = max (root.itemsAt outer) (i + 1) ∧
    ∀ j, root.itemsAt outer ≤ j → j < items.length → j ≠ i → items[j]? = some .null
  /-- Nothing is added that is not on the way to the goal or below it, except these `null`s. -/
  nothingElse : ∀ l v, new.at? l = some v → ¬l <+: goal → ¬goal <+: l →
    root.at? l = some v ∨
      v = .null ∧ ∃ outer i j, outer ++ [.item i] <+: goal ∧ l = outer ++ [.item j] ∧
        root.itemsAt outer ≤ j ∧ j < i

/-! ## Reading and locating -/

variable {v part value : Json} {s : Segment} {place : Place}

theorem child?_eq (v : Json) (s : Segment) : v.child? s = (v.place? s).bind v.part? := by
  cases v with
  | arr items =>
      rw [child?, place?]
      cases s.toIndex? <;> rfl
  | _ => rfl

theorem at?_append (v : Json) (l below : Location) :
    v.at? (l ++ below) = (v.at? l).bind fun part => part.at? below := by
  induction l generalizing v with
  | nil => rfl
  | cons place l ih =>
      rw [List.cons_append, at?, at?, Option.bind_assoc]
      exact congrArg (v.part? place).bind (funext fun part => ih part)

theorem at?_of_locate? {p : Path} {l : Location} (h : v.locate? p = some l) :
    v.at? l = v.getAt? p := by
  induction p generalizing v l with
  | nil =>
      obtain rfl := Option.some.inj h
      rfl
  | cons s rest ih =>
      obtain ⟨place, hplace, h⟩ := Option.bind_eq_some_iff.mp h
      obtain ⟨part, hpart, h⟩ := Option.bind_eq_some_iff.mp h
      obtain ⟨inner, hinner, rfl⟩ := Option.map_eq_some_iff.mp h
      rw [at?, getAt?, child?_eq, hplace, Option.bind_some, hpart, Option.bind_some,
        Option.bind_some]
      exact ih hinner

/-! ## One segment -/

/-- The place that a segment of a write goes to. -/
def goal (v : Json) (s : Segment) : Place :=
  match v.opened s with
  | .arr _ => .item (s.toPosition?.getD 0)
  | _ => .field s.toKey

theorem goal_of_obj {fields : Record} (h : v.opened s = .obj fields) :
    v.goal s = .field s.toKey := by
  rw [goal, h]

theorem goal_of_arr {items : List Json} {i : Nat} (h : v.opened s = .arr items)
    (hi : s.toPosition? = some i) : v.goal s = .item i := by
  rw [goal, h, hi]
  rfl

theorem place?_of_arr {i : Nat} (hi : s.toPosition? = some i) (items : List Json) :
    (arr items).place? s = some (.item i) := by
  rw [place?, (Segment.toPosition?_eq_some_iff.mp hi).1]
  rfl

theorem place?_opened (hs : s.InReach) (v : Json) : (v.opened s).place? s = some (v.goal s) := by
  rcases opened_cases hs v with ⟨fields, h⟩ | ⟨items, i, h, hi⟩
  · rw [goal_of_obj h, h]
    rfl
  · rw [goal_of_arr h hi, h]
    exact place?_of_arr hi items

theorem place?_updateChild (hs : s.InReach) (v : Json) (f : Json → Json) :
    (v.updateChild s f).place? s = some (v.goal s) := by
  rw [← updateChild_opened hs]
  rcases opened_cases hs v with ⟨fields, h⟩ | ⟨items, i, h, hi⟩
  · rw [goal_of_obj h, h]
    rfl
  · rw [goal_of_arr h hi, h, updateChild_arr hi]
    exact place?_of_arr hi _

theorem part?_updateChild_goal (hs : s.InReach) (v : Json) (f : Json → Json) :
    (v.updateChild s f).part? (v.goal s) = some (f (v.before s)) := by
  have hchild := child?_updateChild hs v f
  rwa [child?_eq, place?_updateChild hs] at hchild

/-- At every other place there is what was there before, or a `null` that fills up an array. -/
theorem part?_updateChild_of_ne (hs : s.InReach) (f : Json → Json) (hne : place ≠ v.goal s) :
    (v.updateChild s f).part? place = (v.opened s).part? place ∨
    (v.opened s).part? place = none ∧ (v.updateChild s f).part? place = some .null ∧
      ∃ items i j, v.opened s = .arr items ∧ v.goal s = .item i ∧ place = .item j ∧
        items.length ≤ j ∧ j < i := by
  rw [← updateChild_opened hs]
  rcases opened_cases hs v with ⟨fields, hv⟩ | ⟨items, i, hv, hi⟩
  · rw [goal_of_obj hv] at hne
    rw [hv]
    cases place with
    | field name =>
        have hname : name ≠ s.toKey := fun heq => hne (heq ▸ rfl)
        exact .inl (Table.find?_insert_of_ne _ _ hname)
    | item j => exact .inl rfl
  · rw [goal_of_arr hv hi] at hne ⊢
    rw [hv, updateChild_arr hi, updateItem]
    cases place with
    | field name => exact .inl rfl
    | item j =>
        have hj : i ≠ j := fun heq => hne (heq ▸ rfl)
        show ((extendTo items i).modify i f)[j]? = items[j]? ∨ items[j]? = none ∧
          ((extendTo items i).modify i f)[j]? = some .null ∧ _
        rw [List.getElem?_modify_ne _ _ hj]
        by_cases hlt : j < items.length
        · exact .inl (getElem?_extendTo_of_lt hlt)
        · have hnone : items[j]? = none := List.getElem?_eq_none (by omega)
          by_cases hfill : j < i
          · refine .inr ⟨hnone, getElem?_extendTo_of_le (by omega) (by omega), items, i, j, ?_⟩
            exact ⟨rfl, rfl, rfl, by omega, hfill⟩
          · rw [hnone]
            exact .inl (List.getElem?_eq_none (by rw [length_extendTo]; omega))

/-- A value that is replaced has parts only if it is an array, and they are its items. -/
theorem part?_of_not_fits (h : v.fits s = false) (hpart : v.part? place = some part) :
    ∃ items j, v = .arr items ∧ s.toPosition? = none ∧ place = .item j := by
  cases v with
  | obj fields => cases h
  | arr items =>
      cases place with
      | field name => cases hpart
      | item j =>
          exact ⟨items, j, rfl, Option.not_isSome_iff_eq_none.mp (Bool.eq_false_iff.mp h), rfl⟩
  | _ => cases hpart

/-- What a value loses by being replaced are the items of an array. -/
theorem part?_opened_or_replaced (hs : s.InReach) (h : v.part? place = some part) :
    (v.opened s).part? place = some part ∨ ∀ rest, v.ReplacesArray (s :: rest) [] := by
  cases hfits : v.fits s with
  | true => exact .inl (by rwa [opened_of_fits hfits])
  | false =>
      obtain ⟨items, j, rfl, hnone, -⟩ := part?_of_not_fits hfits h
      cases s with
      | key name => exact .inr fun rest => .here (Segment.toPosition?_eq_none_iff.mp hnone)
      | index i =>
          rw [Segment.toPosition?_index hs] at hnone
          cases hnone

theorem part?_container (s : Segment) (place : Place) : s.container.part? place = none := by
  cases s <;> cases place <;> rfl

theorem part?_of_opened (h : (v.opened s).part? place = some part) : v.part? place = some part := by
  cases hfits : v.fits s with
  | true => rwa [opened_of_fits hfits] at h
  | false =>
      rw [opened_of_not_fits hfits, part?_container] at h
      cases h

/-- A write finds at its goal what stands there, and `null` where nothing stands. -/
theorem before_cases (hs : s.InReach) (v : Json) :
    v.opened s = v ∧ v.part? (v.goal s) = some (v.before s) ∨
      v.part? (v.goal s) = none ∧ v.before s = .null := by
  have hbefore : v.before s = ((v.opened s).part? (v.goal s)).getD .null := by
    rw [before, child?_eq, place?_opened hs]
    rfl
  cases hpart : v.part? (v.goal s) with
  | none =>
      refine .inr ⟨rfl, ?_⟩
      cases hopened : (v.opened s).part? (v.goal s) with
      | none => rw [hbefore, hopened]; rfl
      | some part => rw [part?_of_opened hopened] at hpart; cases hpart
  | some part =>
      cases hfits : v.fits s with
      | true =>
          have hopened := opened_of_fits hfits
          rw [hopened, hpart] at hbefore
          exact .inl ⟨hopened, by rw [hbefore]; rfl⟩
      | false =>
          -- The goal is no item, because an array that does not fit is left for a record.
          obtain ⟨items, j, -, hnone, hgoal⟩ := part?_of_not_fits hfits hpart
          rcases opened_cases hs v with ⟨fields, h⟩ | ⟨items, i, h, hi⟩
          · rw [goal_of_obj h] at hgoal
            cases hgoal
          · rw [hnone] at hi
            cases hi

theorem at?_goal_of_some (hs : s.InReach) {l : Location} (h : v.at? (v.goal s :: l) = some part) :
    v.opened s = v ∧ v.part? (v.goal s) = some (v.before s) ∧ (v.before s).at? l = some part := by
  rw [at?] at h
  rcases before_cases hs v with ⟨hopened, hpart⟩ | ⟨hnone, -⟩
  · rw [hpart] at h
    exact ⟨hopened, hpart, h⟩
  · rw [hnone] at h
    cases h

theorem at?_null {l : Location} (h : l ≠ []) : Json.null.at? l = none := by
  cases l with
  | nil => exact absurd rfl h
  | cons place rest => rfl

theorem at?_goal (hs : s.InReach) (v : Json) {l : Location} (h : l ≠ []) :
    v.at? (v.goal s :: l) = (v.before s).at? l := by
  rw [at?]
  rcases before_cases hs v with ⟨-, hpart⟩ | ⟨hnone, hnull⟩
  · rw [hpart]
    rfl
  · rw [hnone, hnull, at?_null h]
    rfl

theorem itemsAt_goal (hs : s.InReach) (v : Json) (l : Location) :
    v.itemsAt (v.goal s :: l) = (v.before s).itemsAt l := by
  rw [itemsAt, itemsAt, at?]
  rcases before_cases hs v with ⟨-, hpart⟩ | ⟨hnone, hnull⟩
  · rw [hpart]
    rfl
  · rw [hnone, hnull]
    cases l <;> rfl

theorem itemsAt_nil (hs : s.InReach) {items : List Json} (h : v.opened s = .arr items) :
    v.itemsAt [] = items.length := by
  cases hfits : v.fits s with
  | true =>
      rw [opened_of_fits hfits] at h
      rw [h]
      rfl
  | false =>
      rw [opened_of_not_fits hfits] at h
      cases s with
      | key name => cases h
      | index i =>
          obtain rfl := Json.arr.inj h
          cases v with
          | arr items =>
              rw [fits, Segment.toPosition?_index hs] at hfits
              cases hfits
          | _ => rfl

/-! ## Whole paths -/

section Cons

variable {root new : Json} {rest : Path} {inner : Location}

theorem at?_setAt_goal (hs : s.InReach) (root : Json) (rest : Path) (value : Json) (l : Location) :
    (root.setAt (s :: rest) value).at? (root.goal s :: l) =
      ((root.before s).setAt rest value).at? l := by
  rw [setAt, at?, part?_updateChild_goal hs]
  rfl

theorem locate?_setAt_cons (hs : s.InReach) (root value : Json)
    (h : ((root.before s).setAt rest value).locate? rest = some inner) :
    (root.setAt (s :: rest) value).locate? (s :: rest) = some (root.goal s :: inner) := by
  rw [setAt, locate?, place?_updateChild hs, Option.bind_some, part?_updateChild_goal hs,
    Option.bind_some, h]
  rfl

/-- The array that a path enters ends filled up to the position at which it is entered. -/
theorem grown_setAt (hs : s.InReach) (root value : Json) {i : Nat} (hi : root.goal s = .item i) :
    ∃ items, (root.setAt (s :: rest) value).at? [] = some (.arr items) ∧
      items.length = max (root.itemsAt []) (i + 1) ∧
      ∀ j, root.itemsAt [] ≤ j → j < items.length → j ≠ i → items[j]? = some .null := by
  rcases opened_cases hs root with ⟨fields, hroot⟩ | ⟨items, k, hroot, hk⟩
  · rw [goal_of_obj hroot] at hi
    cases hi
  · obtain rfl : k = i := Place.item.inj ((goal_of_arr hroot hk).symm.trans hi)
    rw [at?, setAt, ← updateChild_opened hs, itemsAt_nil hs hroot, hroot, updateChild_arr hk,
      updateItem]
    refine ⟨_, rfl, ?_, fun j hle hlt hne => ?_⟩
    · rw [List.length_modify, length_extendTo]
    · rw [List.length_modify, length_extendTo] at hlt
      rw [List.getElem?_modify_ne _ _ (Ne.symm hne), getElem?_extendTo_of_le hle (by omega)]

theorem ReplacesArray.cons (hs : s.InReach) {outer : Location} (hopened : v.opened s = v)
    (hpart : v.part? (v.goal s) = some (v.before s)) (h : (v.before s).ReplacesArray rest outer) :
    v.ReplacesArray (s :: rest) (v.goal s :: outer) := by
  rcases opened_cases hs v with ⟨fields, hv⟩ | ⟨items, i, hv, hi⟩
  · rw [goal_of_obj hv] at hpart ⊢
    obtain rfl := hopened.symm.trans hv
    exact .field hpart h
  · rw [goal_of_arr hv hi] at hpart ⊢
    obtain rfl := hopened.symm.trans hv
    obtain ⟨hindex, hle⟩ := Segment.toPosition?_eq_some_iff.mp hi
    exact .item hindex hle hpart h

/-- An array that is replaced is the value itself, or it is below the goal of the first segment. -/
theorem ReplacesArray.cases_cons {outer : Location} (h : v.ReplacesArray (s :: rest) outer) :
    (outer = [] ∧ ∀ f, ∃ fields, v.updateChild s f = .obj fields) ∨
      ∃ below, outer = v.goal s :: below ∧ (v.before s).ReplacesArray rest below := by
  cases h with
  | here hname =>
      refine .inl ⟨rfl, fun f => ?_⟩
      simp only [updateChild, Segment.toPosition?_eq_none_iff.mpr hname, updateField]
      exact ⟨_, rfl⟩
  | @field fields _ _ _ _ hpart h =>
      have hopened : (obj fields).opened s = obj fields := opened_of_fits rfl
      rw [before, goal_of_obj hopened, hopened, child?_obj, hpart]
      exact .inr ⟨_, rfl, h⟩
  | @item items _ _ _ _ _ hi hle hpart h =>
      have hposition := Segment.toPosition?_eq_some_iff.mpr ⟨hi, hle⟩
      have hopened : (arr items).opened s = arr items :=
        opened_of_fits (Option.isSome_of_eq_some hposition)
      rw [before, goal_of_arr hopened hposition, hopened, child?_arr hposition, hpart]
      exact .inr ⟨_, rfl, h⟩

theorem Frame.cons (hs : s.InReach) (root value : Json)
    (h : (root.before s).Frame ((root.before s).setAt rest value) rest inner) :
    root.Frame (root.setAt (s :: rest) value) (s :: rest) (root.goal s :: inner) := by
  constructor
  case kept =>
    intro l v hv habove hbelow hreplaced
    cases l with
    | nil => exact absurd List.nil_prefix habove
    | cons place l =>
        by_cases hgoal : place = root.goal s
        · -- Below the first goal the rest of the path decides.
          subst hgoal
          obtain ⟨hopened, hpart, hv⟩ := at?_goal_of_some hs hv
          rw [List.prefix_cons_inj] at habove hbelow
          rw [at?_setAt_goal hs]
          refine h.kept l v hv habove hbelow fun outer houter hfront => ?_
          exact hreplaced _ (houter.cons hs hopened hpart) ((List.prefix_cons_inj _).mpr hfront)
        · -- Beside it a part is kept, or the whole value is an array that is replaced.
          obtain ⟨part, hpart, hv⟩ := Option.bind_eq_some_iff.mp hv
          rcases part?_opened_or_replaced hs hpart with hopened | hwhole
          · rw [setAt, at?]
            rcases part?_updateChild_of_ne hs _ hgoal with hsame | ⟨hnone, -⟩
            · rw [hsame, hopened]
              exact hv
            · rw [hopened] at hnone
              cases hnone
          · exact absurd List.nil_prefix (hreplaced [] (hwhole rest))
  case replaced =>
    intro outer houter
    rcases houter.cases_cons with ⟨rfl, hrecord⟩ | ⟨below, rfl, hbelow⟩
    · obtain ⟨fields, hfields⟩ := hrecord fun child => child.setAt rest value
      refine ⟨?_, fields, congrArg some hfields⟩
      exact List.nil_prefix
    · obtain ⟨hfront, fields, hfields⟩ := h.replaced below hbelow
      refine ⟨(List.prefix_cons_inj _).mpr hfront, fields, ?_⟩
      rw [at?_setAt_goal hs, hfields]
  case grown =>
    intro outer i hfront
    cases outer with
    | nil =>
        obtain ⟨hgoal, -⟩ := List.cons_prefix_cons.mp hfront
        exact grown_setAt hs root value hgoal.symm
    | cons place outer =>
        rw [List.cons_append, List.cons_prefix_cons] at hfront
        obtain ⟨rfl, hbelow⟩ := hfront
        rw [at?_setAt_goal hs, itemsAt_goal hs]
        exact h.grown outer i hbelow
  case nothingElse =>
    intro l v hv habove hbelow
    cases l with
    | nil => exact absurd List.nil_prefix habove
    | cons place l =>
        by_cases hgoal : place = root.goal s
        · subst hgoal
          rw [List.prefix_cons_inj] at habove hbelow
          rw [at?_setAt_goal hs] at hv
          rcases h.nothingElse l v hv habove hbelow with
            hold | ⟨hnull, outer, i, j, hfront, rfl, hle, hlt⟩
          · -- What the rest of the path finds need not be there, but then nothing is in it.
            have hl : l ≠ [] := fun hnil => habove (hnil ▸ List.nil_prefix)
            exact .inl ((at?_goal hs root hl).trans hold)
          · refine .inr ⟨hnull, root.goal s :: outer, i, j, ?_, rfl, ?_, hlt⟩
            · exact (List.prefix_cons_inj _).mpr hfront
            · rw [itemsAt_goal hs]
              exact hle
        · obtain ⟨part, hpart, hrest⟩ := Option.bind_eq_some_iff.mp hv
          rcases part?_updateChild_of_ne hs _ hgoal with
            hsame | ⟨-, hfill, items, i, j, hitems, hi, rfl, hle, hlt⟩
          · refine .inl ?_
            rw [at?, part?_of_opened (hsame.symm.trans hpart)]
            exact hrest
          · -- Nothing is below a `null` that fills up an array.
            obtain rfl := Option.some.inj (hfill.symm.trans hpart)
            obtain rfl : l = [] := Classical.byContradiction fun hl => by
              rw [at?_null hl] at hrest
              cases hrest
            refine .inr ⟨(Option.some.inj hrest).symm, [], i, j, ?_, rfl, ?_, hlt⟩
            · rw [hi]
              exact List.cons_prefix_cons.mpr ⟨rfl, List.nil_prefix⟩
            · rw [itemsAt_nil hs hitems]
              exact hle

end Cons

/-- Where a write succeeds its path leads somewhere, and it changes the value only there. -/
theorem frame_setAt {p : Path} (hp : ∀ s ∈ p, s.InReach) (root value : Json) :
    ∃ goal, (root.setAt p value).locate? p = some goal ∧
      root.Frame (root.setAt p value) p goal := by
  induction p generalizing root with
  | nil =>
      -- Every location is below the whole value.
      refine ⟨[], rfl, ⟨?_, ?_, ?_, ?_⟩⟩
      · exact fun l v _ _ hbelow _ => absurd List.nil_prefix hbelow
      · intro outer houter
        cases houter
      · intro outer i hfront
        exact absurd (List.prefix_nil.mp hfront) (List.append_ne_nil_of_right_ne_nil _ (by simp))
      · exact fun l v _ _ hbelow => absurd List.nil_prefix hbelow
  | cons s rest ih =>
      obtain ⟨hs, hrest⟩ := List.forall_mem_cons.mp hp
      obtain ⟨inner, hinner, hframe⟩ := ih hrest (root.before s)
      exact ⟨_, locate?_setAt_cons hs root value hinner, hframe.cons hs root value⟩

/-! ## Writing back -/

/-- A path enters an array of a value by a dotted number that writing does not take for a
position. -/
inductive EntersFar : Json → Path → Prop
  | here {items : List Json} {name : String} {rest : Path} {i : Nat}
      (hi : (Segment.key name).toIndex? = some i) (hfar : maxPosition < i) :
      EntersFar (.arr items) (.key name :: rest)
  | deeper {v child : Json} {s : Segment} {rest : Path} (hchild : v.child? s = some child)
      (h : child.EntersFar rest) : EntersFar v (s :: rest)

theorem Canonical.part? (h : v.Canonical) (hpart : v.part? place = some part) :
    part.Canonical := by
  cases v with
  | obj fields =>
      cases place with
      | field name => exact canonicalFields_iff.mp h.2 _ (Table.mem_of_find? hpart)
      | item i => cases hpart
  | arr items =>
      cases place with
      | field name => cases hpart
      | item i => exact canonicalItems_iff.mp h _ (List.mem_of_getElem? hpart)
  | _ => cases hpart

theorem Canonical.child? {child : Json} (h : v.Canonical) (hchild : v.child? s = some child) :
    child.Canonical := by
  rw [child?_eq] at hchild
  obtain ⟨place, -, hpart⟩ := Option.bind_eq_some_iff.mp hchild
  exact h.part? hpart

/-- A part that is left as it is leaves the whole value as it is. -/
theorem updateChild_of_child? {child : Json} {rest : Path} {f : Json → Json} (hs : s.InReach)
    (hv : v.Canonical) (hfar : ¬v.EntersFar (s :: rest)) (hchild : v.child? s = some child)
    (hf : f child = child) : v.updateChild s f = v := by
  cases v with
  | obj fields =>
      have hfound : Table.find? fields s.toKey = some child := hchild
      rw [updateChild_obj, updateField, hfound, Option.getD_some, hf,
        Table.insert_of_find? hv.1 hfound]
  | arr items =>
      obtain ⟨i, hi, hitem⟩ := Option.bind_eq_some_iff.mp hchild
      have hle : i ≤ maxPosition := by
        cases s with
        | key name => exact Nat.le_of_not_lt fun hlt => hfar (.here hi hlt)
        | index j =>
            obtain rfl := Option.some.inj hi
            exact hs j rfl
      have hlt : i < items.length := (List.getElem?_eq_some_iff.mp hitem).1
      have hsame : items.modify i f = items := by
        refine List.ext_getElem? fun j => ?_
        by_cases hj : i = j
        · rw [← hj, List.getElem?_modify_eq, hitem, Option.map_eq_map, Option.map_some, hf]
        · rw [List.getElem?_modify_ne _ _ hj]
      rw [updateChild_arr (Segment.toPosition?_eq_some_iff.mpr ⟨hi, hle⟩), updateItem,
        extendTo_of_lt hlt, hsame]
  | _ => cases hchild

theorem setAt_of_getAt? {p : Path} (hp : ∀ s ∈ p, s.InReach) {root : Json} (hroot : root.Canonical)
    (hfar : ¬root.EntersFar p) (h : root.getAt? p = some value) : root.setAt p value = root := by
  induction p generalizing root with
  | nil => exact (Option.some.inj h).symm
  | cons s rest ih =>
      obtain ⟨hs, hrest⟩ := List.forall_mem_cons.mp hp
      obtain ⟨child, hchild, h⟩ := Option.bind_eq_some_iff.mp h
      -- The part is found, so what the rest of the path writes back leaves it as it is.
      refine updateChild_of_child? hs hroot hfar hchild (ih hrest (hroot.child? hchild) ?_ h)
      exact fun hchildFar => hfar (.deeper hchild hchildFar)

end Json

/-- **A write changes nothing but what its path denotes.** A write that succeeds leads to a location
of the new value, where the value is that was written. All other locations keep what they had, but
for the items of an array that the path enters by a name which is no position up to the greatest
one; an array that is entered at a position is filled up to it with `null`; and nothing else
appears. So writing back what was read leaves a value as it was, if no array on the way is entered
by a dotted number above the greatest position. -/
theorem frame_of_set (root : Json) (text : String) (value : Json) :
    (∀ new, root.set text value = .ok new →
      ∃ goal, new.locate? (Path.parse text) = some goal ∧ new.at? goal = some value ∧
        root.Frame new (Path.parse text) goal) ∧
    (root.Canonical → root.get? text = some value → ¬root.EntersFar (Path.parse text) →
      root.afterSet text value = root) := by
  constructor
  · intro new hset
    obtain ⟨hreach, rfl⟩ := Json.set_eq_ok_iff.mp hset
    obtain ⟨goal, hgoal, hframe⟩ := Json.frame_setAt hreach root value
    refine ⟨goal, hgoal, ?_, hframe⟩
    rw [Json.at?_of_locate? hgoal]
    exact Json.getAt?_setAt hreach root value
  · intro hroot hget hfar
    rw [Json.afterSet]
    cases hset : root.set text value with
    | error f => rfl
    | ok new =>
        obtain ⟨hreach, rfl⟩ := Json.set_eq_ok_iff.mp hset
        exact Json.setAt_of_getAt? hreach hroot hfar hget

def twoArrays : Json := .obj [("a", .arr [.nat 1]), ("b", .arr [.nat 2])]

/-- One array is replaced by a record and the other one stays, and its item can be written back. -/
theorem twoArrays_frame :
    twoArrays.set "a.c" .null = .ok (.obj [("a", .obj [("c", .null)]), ("b", .arr [.nat 2])]) ∧
    twoArrays.ReplacesArray (Path.parse "a.c") [.field "a"] ∧
    (∃ goal, goal = [.field "a", .field "c"] ∧ twoArrays.Frame
      (.obj [("a", .obj [("c", .null)]), ("b", .arr [.nat 2])]) (Path.parse "a.c") goal) ∧
    twoArrays.Canonical ∧ twoArrays.get? "b[0]" = some (.nat 2) ∧
    ¬twoArrays.EntersFar (Path.parse "b[0]") ∧ twoArrays.afterSet "b[0]" (.nat 2) = twoArrays := by
  have hset : twoArrays.set "a.c" .null =
      .ok (.obj [("a", .obj [("c", .null)]), ("b", .arr [.nat 2])]) := rfl
  have hcanonical : twoArrays.Canonical := by
    have hsorted : Table.Sorted [("a", Json.arr [.nat 1]), ("b", .arr [.nat 2])] :=
      Table.sorted_iff_keys.mpr (by decide)
    simpa [twoArrays, Json.Canonical, Json.CanonicalFields, Json.CanonicalItems, Json.nat] using
      hsorted
  have hfar : ¬twoArrays.EntersFar (Path.parse "b[0]") := by
    rw [show Path.parse "b[0]" = [.key "b", .index 0] by decide]
    rintro (_ | ⟨hchild, hitems⟩)
    obtain rfl := Option.some.inj hchild
    rcases hitems with _ | ⟨-, hitem⟩
    cases hitem
  obtain ⟨goal, hgoal, -, hframe⟩ := (frame_of_set twoArrays "a.c" .null).1 _ hset
  refine ⟨hset, ?_, ⟨goal, (Option.some.inj hgoal).symm, hframe⟩, hcanonical, rfl, hfar, ?_⟩
  · rw [show Path.parse "a.c" = [.key "a", .key "c"] by decide]
    exact .field rfl (.here (by decide))
  · exact (frame_of_set twoArrays "b[0]" (.nat 2)).2 hcanonical rfl hfar

end StepPipeline
