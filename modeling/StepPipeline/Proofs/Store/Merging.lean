import StepPipeline.Proofs.Store.Bookkeeping
import StepPipeline.Store.Pool

/-!
# Merging contexts

A context is merged into another one part by part: values and counters name by name, the test if
there is one. Flattened, the three parts stand in one record under names that cannot meet as long as
no value has the name of a counter or of the test (`Context.PlainNames`). So what is found in the
record of the merged context is found part by part (`Context.find?_toRecord_testKey`,
`Context.find?_toRecord_jumpKey`, `Context.find?_toRecord`), and merging is overlaying of records.

The tables of a context are in order, whatever is done with it (`Context.Ordered`). So contexts in
which the same is found are equal, and the laws of merging are those of overlaying. Handles are
asked to be on contexts of their pool that are in order (`ContextPool.Sound`), and in every pool
that comes about they are (`ContextPool.Made.sound`).

Main statement: `merging_commutes_with_flattening`.
-/

namespace StepPipeline

/-! ## Overlaying -/

namespace Table

universe u v

variable {α : Type u} {β : Type v} {t s r : Table α}

theorem overlay_assoc (ht : Sorted t) (hs : Sorted s) (hr : Sorted r) :
    overlay (overlay t s) r = overlay t (overlay s r) := by
  apply eq_of_sorted (sorted_overlay (sorted_overlay ht s) r) (sorted_overlay ht _)
  intro key
  rw [find?_overlay _ hr.namesOnce, find?_overlay _ hs.namesOnce,
    find?_overlay _ (sorted_overlay hs r).namesOnce, find?_overlay _ hr.namesOnce, Option.or_assoc]

theorem overlay_self (ht : Sorted t) : overlay t t = t := by
  apply eq_of_sorted (sorted_overlay ht t) ht
  intro key
  rw [find?_overlay _ ht.namesOnce, Option.or_self]

theorem overlay_nil (t : Table α) : overlay t [] = t := rfl

/-- Under a name that comes from no other one, the same is found as under that one. -/
theorem find?_rename {f : String → String} (hf : ∀ {j k}, f j = f k → j = k) (g : α → β)
    (t : Table α) (key : String) :
    find? (t.map fun e => (f e.1, g e.2)) (f key) = (find? t key).map g := by
  induction t with
  | nil => rfl
  | cons e rest ih =>
      rw [List.map_cons, find?_cons, find?, ih]
      by_cases h : e.1 = key
      · rw [if_pos h, if_pos (congrArg f h)]
        rfl
      · rw [if_neg h, if_neg fun heq => h (hf heq)]

end Table

namespace Context

/-! ## Contexts in order -/

/-- Both tables of a context are sorted by name. -/
structure Ordered (c : Context) : Prop where
  values : Table.Sorted c.values
  jumpCounts : Table.Sorted c.jumpCounts

variable {a b c : Context}

theorem ordered_empty : Ordered {} := ⟨Table.sorted_nil, Table.sorted_nil⟩

theorem ordered_ofRecord {values : Record} (h : Table.Sorted values) (test : Option TestInfo) :
    (ofRecord values test).Ordered :=
  ⟨h, Table.sorted_nil⟩

theorem Ordered.set (h : c.Ordered) (key : String) (value : Json) : (c.set key value).Ordered :=
  ⟨Table.sorted_insert h.values key value, h.jumpCounts⟩

theorem Ordered.remove (h : c.Ordered) (key : String) : (c.remove key).Ordered :=
  ⟨Table.sorted_erase h.values key, h.jumpCounts⟩

theorem Ordered.merge (h : c.Ordered) (record : Record) : (c.merge record).Ordered :=
  ⟨Table.sorted_overlay h.values record, h.jumpCounts⟩

theorem Ordered.countJump (h : c.Ordered) (target : String) : (c.countJump target).Ordered :=
  ⟨h.values, Table.sorted_insert h.jumpCounts target _⟩

theorem Ordered.setTest (h : c.Ordered) (test : TestInfo) : (c.setTest test).Ordered :=
  ⟨h.values, h.jumpCounts⟩

theorem Ordered.mergeAll (h : a.Ordered) (b : Context) : (a.mergeAll b).Ordered :=
  ⟨Table.sorted_overlay h.values _, Table.sorted_overlay h.jumpCounts _⟩

/-- What holders of a handle do to a context. -/
inductive Change
  | set (key : String) (value : Json)
  | remove (key : String)
  | merge (record : Record)
  | mergeAll (other : Context)
  | countJump (target : String)
  | setTest (test : TestInfo)

def Change.apply : Change → Context → Context
  | .set key value, c => c.set key value
  | .remove key, c => c.remove key
  | .merge record, c => c.merge record
  | .mergeAll other, c => c.mergeAll other
  | .countJump target, c => c.countJump target
  | .setTest test, c => c.setTest test

/-- No change brings a context out of order, whatever records and contexts come in. -/
theorem Ordered.change (h : c.Ordered) (change : Change) : (change.apply c).Ordered := by
  cases change with
  | set key value => exact h.set key value
  | remove key => exact h.remove key
  | merge record => exact h.merge record
  | mergeAll other => exact h.mergeAll other
  | countJump target => exact h.countJump target
  | setTest test => exact h.setTest test

theorem Ordered.toRecord (h : c.Ordered) : Table.Sorted c.toRecord :=
  Table.sorted_overlay (Table.sorted_overlay h.values _) _

/-! ## The laws of merging -/

theorem mergeAll_assoc (ha : a.Ordered) (hb : b.Ordered) (hc : c.Ordered) :
    (a.mergeAll b).mergeAll c = a.mergeAll (b.mergeAll c) := by
  simp only [mergeAll, Table.overlay_assoc ha.values hb.values hc.values,
    Table.overlay_assoc ha.jumpCounts hb.jumpCounts hc.jumpCounts]
  cases c.test <;> rfl

theorem mergeAll_self (h : a.Ordered) : a.mergeAll a = a := by
  simp only [mergeAll, Table.overlay_self h.values, Table.overlay_self h.jumpCounts]
  cases a with
  | mk values jumpCounts test => cases test <;> rfl

theorem mergeAll_twice (ha : a.Ordered) (hb : b.Ordered) :
    (a.mergeAll b).mergeAll b = a.mergeAll b := by
  rw [mergeAll_assoc ha hb hb, mergeAll_self hb]

theorem mergeAll_empty (a : Context) : a.mergeAll {} = a := rfl

/-! ## Flat records -/

/-- No value has the name of the test or of a counter. -/
def PlainNames (c : Context) : Prop := ∀ key ∈ Table.keys c.values, IsPlainName key

theorem find?_values_of_isBookkeeping (hc : c.PlainNames) {key : String}
    (h : isBookkeeping key = true) : Table.find? c.values key = none := by
  rw [Table.find?_eq_none_iff]
  intro hmem
  rw [isBookkeeping_eq_false_iff.mpr (hc key hmem)] at h
  cases h

theorem jumpKey_inj {s t : String} (h : jumpKey s = jumpKey t) : s = t := by
  have htext := congrArg String.toList h
  rw [jumpKey, jumpKey, String.toList_append, String.toList_append] at htext
  exact String.toList_inj.mp (List.append_cancel_left htext)

theorem jumpKey_ne_testKey (target : String) : jumpKey target ≠ testKey := by
  intro h
  have htext := congrArg String.toList h
  rw [jumpKey, String.toList_append] at htext
  cases htext

theorem namesOnce_countEntries (h : c.Ordered) : Table.NamesOnce c.countEntries := by
  have hnames : Table.keys c.countEntries = (Table.keys c.jumpCounts).map jumpKey := by
    simp only [Table.keys, countEntries, List.map_map]
    rfl
  rw [Table.NamesOnce, hnames]
  exact List.Pairwise.map _ (fun _ _ hne heq => hne (jumpKey_inj heq)) h.jumpCounts.namesOnce

theorem namesOnce_testEntries (c : Context) : Table.NamesOnce c.testEntries := by
  unfold testEntries
  cases c.test with
  | none => exact List.nodup_nil
  | some test => exact List.pairwise_singleton _ _

/-- A flat record has the test, or else a counter, or else a value. -/
theorem find?_toRecord_parts (h : c.Ordered) (key : String) : Table.find? c.toRecord key =
    (Table.find? c.testEntries key).or
      ((Table.find? c.countEntries key).or (Table.find? c.values key)) := by
  rw [Context.toRecord, Table.find?_overlay _ (namesOnce_testEntries c),
    Table.find?_overlay _ (namesOnce_countEntries h)]

theorem find?_testEntries (c : Context) (key : String) : Table.find? c.testEntries key =
    if key = testKey then c.test.map TestInfo.toJson else none := by
  unfold testEntries
  cases c.test with
  | none => simp
  | some test => simp [Table.find?_cons, eq_comm]

theorem find?_countEntries_jumpKey (c : Context) (target : String) :
    Table.find? c.countEntries (jumpKey target) =
      (Table.find? c.jumpCounts target).map fun n => Json.nat n.toNat :=
  Table.find?_rename jumpKey_inj (fun n : UInt32 => Json.nat n.toNat) c.jumpCounts target

theorem find?_countEntries_testKey (c : Context) : Table.find? c.countEntries testKey = none := by
  rw [Table.find?_eq_none_iff]
  intro hmem
  simp only [Table.keys, countEntries, List.map_map, List.mem_map, Function.comp] at hmem
  obtain ⟨e, -, he⟩ := hmem
  exact jumpKey_ne_testKey e.1 he

theorem find?_toRecord_testKey (h : c.Ordered) (hc : c.PlainNames) :
    Table.find? c.toRecord testKey = c.test.map TestInfo.toJson := by
  rw [find?_toRecord_parts h, find?_testEntries, if_pos rfl, find?_countEntries_testKey,
    find?_values_of_isBookkeeping hc (isBookkeeping_iff.mpr (.inl rfl)), Option.or_none,
    Option.or_none]

theorem find?_toRecord_jumpKey (h : c.Ordered) (hc : c.PlainNames) (target : String) :
    Table.find? c.toRecord (jumpKey target) =
      (Table.find? c.jumpCounts target).map fun n => Json.nat n.toNat := by
  rw [find?_toRecord_parts h, find?_testEntries, if_neg (jumpKey_ne_testKey target),
    find?_countEntries_jumpKey, find?_values_of_isBookkeeping hc (isBookkeeping_jumpKey target),
    Option.or_none, Option.none_or]

theorem PlainNames.mergeAll (ha : a.PlainNames) (hb : b.PlainNames) : (a.mergeAll b).PlainNames := by
  intro key hkey
  obtain ⟨e, he, rfl⟩ := List.mem_map.mp hkey
  rcases Table.mem_of_mem_overlay he with he | he
  · exact ha _ (List.mem_map_of_mem he)
  · exact hb _ (List.mem_map_of_mem he)

/-- The record of a merged context is the one record laid over the other. -/
theorem toRecord_mergeAll (ha : a.Ordered) (hb : b.Ordered) (hpa : a.PlainNames)
    (hpb : b.PlainNames) :
    (a.mergeAll b).toRecord = Table.overlay a.toRecord b.toRecord := by
  have hab := ha.mergeAll b
  have hpab := hpa.mergeAll hpb
  apply Table.eq_of_sorted hab.toRecord (Table.sorted_overlay ha.toRecord _)
  intro key
  rw [Table.find?_overlay _ hb.toRecord.namesOnce]
  -- Bookkeeping and values never meet under a name, so each is found on its own side.
  cases hkey : isBookkeeping key with
  | false =>
      rw [find?_toRecord _ hkey, find?_toRecord _ hkey, find?_toRecord _ hkey]
      exact Table.find?_overlay _ hb.values.namesOnce key
  | true =>
      rcases isBookkeeping_iff.mp hkey with rfl | ⟨target, rfl⟩
      · rw [find?_toRecord_testKey hab hpab, find?_toRecord_testKey ha hpa,
          find?_toRecord_testKey hb hpb, Context.mergeAll]
        cases b.test <;> rfl
      · rw [find?_toRecord_jumpKey hab hpab, find?_toRecord_jumpKey ha hpa,
          find?_toRecord_jumpKey hb hpb, Context.mergeAll,
          Table.find?_overlay _ hb.jumpCounts.namesOnce]
        cases Table.find? b.jumpCounts target <;> rfl

theorem withoutBookkeeping_toRecord (h : c.Ordered) (hc : c.PlainNames) :
    withoutBookkeeping c.toRecord = c.values := by
  have hsorted : Table.Sorted (withoutBookkeeping c.toRecord) := List.Pairwise.filter _ h.toRecord
  apply Table.eq_of_sorted hsorted h.values
  intro key
  rw [find?_withoutBookkeeping]
  cases hkey : isBookkeeping key with
  | false => exact find?_toRecord c hkey
  | true => exact (find?_values_of_isBookkeeping hc hkey).symm

end Context

/-! ## Handles -/

namespace ContextPool

/-- Every handle is on a context of the pool, and all contexts are in order. -/
structure Sound (p : ContextPool) : Prop where
  handles : ∀ name i, Table.find? p.handles name = some i → i < p.contexts.length
  ordered : ∀ c ∈ p.contexts, c.Ordered

variable {p : ContextPool} {f : Context → Context}

theorem sound_empty : Sound {} := ⟨nofun, nofun⟩

theorem Sound.get (h : p.Sound) (name : String) : (p.get name).Ordered := by
  unfold ContextPool.get
  cases Table.find? p.handles name with
  | none => exact Context.ordered_empty
  | some i =>
      cases hc : p.contexts[i]? with
      | none => simpa [hc] using Context.ordered_empty
      | some c => simpa [hc] using h.ordered c (List.mem_of_getElem? hc)

theorem Sound.create (h : p.Sound) (name : String) {c : Context} (hc : c.Ordered) :
    (p.create name c).Sound := by
  constructor
  · intro other i hi
    have hlength : (p.create name c).contexts.length = p.contexts.length + 1 :=
      List.length_append
    rw [hlength]
    replace hi : Table.find? (Table.insert p.handles name p.contexts.length) other = some i := hi
    -- Only the new handle is on the new context; it stands behind all others.
    rw [Table.find?_insert] at hi
    split at hi
    · obtain rfl := Option.some.inj hi
      exact Nat.lt_succ_self _
    · exact Nat.lt_succ_of_lt (h.handles other i hi)
  · exact List.forall_mem_append.mpr ⟨h.ordered, List.forall_mem_singleton.mpr hc⟩

theorem Sound.ensure (h : p.Sound) (name : String) : (p.ensure name).Sound := by
  unfold ContextPool.ensure
  split
  · exact h
  · exact h.create name Context.ordered_empty

theorem Sound.update (h : p.Sound) (name : String) (hf : ∀ c, c.Ordered → (f c).Ordered) :
    (p.update name f).Sound := by
  unfold ContextPool.update
  split
  · next i _ =>
    constructor
    · intro other j hj
      rw [List.length_modify]
      exact h.handles other j hj
    · intro c hc
      obtain ⟨j, hj⟩ := List.mem_iff_getElem?.mp hc
      rw [List.getElem?_modify] at hj
      obtain ⟨d, hd, rfl⟩ := Option.map_eq_some_iff.mp hj
      have hordered := h.ordered d (List.mem_of_getElem? hd)
      split
      · exact hf d hordered
      · exact hordered
  · exact h.create name (hf {} Context.ordered_empty)

theorem Sound.share (h : p.Sound) (name other : String) : (p.share name other).Sound := by
  have hp := h.ensure name
  unfold ContextPool.share
  dsimp only
  split
  · next i hi =>
    refine ⟨fun third j hj => ?_, hp.ordered⟩
    rw [Table.find?_insert] at hj
    split at hj
    · obtain rfl := Option.some.inj hj
      exact hp.handles name i hi
    · exact hp.handles third j hj
  · exact hp

/-- The pools that come about: from none at all, by making handles, sharing them and changing the
contexts they are on. -/
inductive Made : ContextPool → Prop
  | empty : Made {}
  | create {p : ContextPool} (name : String) {values : Record} (test : Option TestInfo) :
      Made p → Table.Sorted values → Made (p.create name (.ofRecord values test))
  | ensure {p : ContextPool} (name : String) : Made p → Made (p.ensure name)
  | share {p : ContextPool} (name other : String) : Made p → Made (p.share name other)
  | change {p : ContextPool} (name : String) (change : Context.Change) :
      Made p → Made (p.update name change.apply)

/-- Every pool that comes about is sound. -/
theorem Made.sound (h : p.Made) : p.Sound := by
  induction h with
  | empty => exact sound_empty
  | create name test _ hvalues ih => exact ih.create name (Context.ordered_ofRecord hvalues test)
  | ensure name _ ih => exact ih.ensure name
  | share name other _ ih => exact ih.share name other
  | change name change _ ih => exact ih.update name fun c hc => hc.change change

theorem get_update_self (h : p.Sound) (name : String) :
    (p.update name f).get name = f (p.get name) := by
  unfold ContextPool.update
  split
  · next i hi =>
    have hlt := h.handles name i hi
    simp [ContextPool.get, hi, List.getElem?_modify, List.getElem?_eq_getElem hlt]
  · next hnone => simp [ContextPool.get, ContextPool.create, hnone]

/-- A change that would leave the context of a handle as it is leaves it so, whichever context is
changed. -/
theorem get_update_of_fixed (h : p.Sound) {name other : String}
    (hfixed : f (p.get other) = p.get other) : (p.update name f).get other = p.get other := by
  by_cases hname : other = name
  · rw [hname] at hfixed ⊢
    rw [get_update_self h, hfixed]
  · unfold ContextPool.update
    split
    · next i hi =>
      cases hj : Table.find? p.handles other with
      | none => simp [ContextPool.get, hj]
      | some j =>
          have hlt := h.handles other j hj
          have hget : p.get other = p.contexts[j] := by
            simp [ContextPool.get, hj, List.getElem?_eq_getElem hlt]
          rw [hget] at hfixed ⊢
          -- Two names can be on one context.
          by_cases hij : i = j
          · simp [ContextPool.get, hj, List.getElem?_modify, hlt, hij, hfixed]
          · simp [ContextPool.get, hj, List.getElem?_modify, hlt, hij]
    · next hnone =>
      cases hj : Table.find? p.handles other with
      | none => simp [ContextPool.get, ContextPool.create, Table.find?_insert_of_ne _ _ hname, hj]
      | some j =>
          have hlt := h.handles other j hj
          simp [ContextPool.get, ContextPool.create, Table.find?_insert_of_ne _ _ hname, hj,
            List.getElem?_append_left hlt]

end ContextPool

/-- **Merging commutes with flattening.** Let no value have the name of a counter or of the test.
When a context is merged into another one, through handles that may even be on one context, the
record of that one is its old record with the other record over it, and the other context is as
before. Merging is associative, a second merge of the same context and the merge of an empty one
change nothing, and without the names of counters and test a flat record has the values. -/
theorem merging_commutes_with_flattening :
    (∀ (p : ContextPool) (name other : String), p.Sound → (p.get name).PlainNames →
      (p.get other).PlainNames →
      let merged := p.update name fun c => c.mergeAll (p.get other)
      merged.Sound ∧
      (merged.get name).toRecord = Table.overlay (p.get name).toRecord (p.get other).toRecord ∧
      merged.get other = p.get other) ∧
    (∀ a b c : Context, a.Ordered → b.Ordered → c.Ordered →
      (a.mergeAll b).mergeAll c = a.mergeAll (b.mergeAll c) ∧
      (a.mergeAll b).mergeAll b = a.mergeAll b ∧ a.mergeAll {} = a) ∧
    ∀ c : Context, c.Ordered → c.PlainNames →
      Context.withoutBookkeeping c.toRecord = c.values := by
  refine ⟨fun p name other hp hname hother => ⟨?_, ?_, ?_⟩, fun a b c ha hb hc => ⟨?_, ?_, ?_⟩, ?_⟩
  · exact hp.update name fun c hc => hc.mergeAll _
  · rw [ContextPool.get_update_self hp]
    exact Context.toRecord_mergeAll (hp.get name) (hp.get other) hname hother
  · exact ContextPool.get_update_of_fixed hp (Context.mergeAll_self (hp.get other))
  · exact Context.mergeAll_assoc ha hb hc
  · exact Context.mergeAll_twice ha hb
  · exact Context.mergeAll_empty a
  · exact fun c hc hplain => Context.withoutBookkeeping_toRecord hc hplain

/-- Two contexts with counters, one of them with a test. -/
def baseAndSetup : ContextPool where
  contexts := [
    { values := [("keep", .nat 1), ("shared", .nat 1)], jumpCounts := [("retry", 2)] },
    { values := [("shared", .nat 2)], jumpCounts := [("poll", 1), ("retry", 3)]
      test := some { name := some "smoke" } }]
  handles := [("base", 0), ("setup", 1)]

theorem sound_baseAndSetup : baseAndSetup.Sound := by
  constructor
  · intro name i hi
    have hmem := Table.mem_of_find? hi
    simp only [baseAndSetup, List.mem_cons, Prod.mk.injEq, List.not_mem_nil, or_false] at hmem
    rcases hmem with ⟨-, rfl⟩ | ⟨-, rfl⟩ <;> decide
  · refine List.forall_mem_cons.mpr ⟨⟨?_, ?_⟩, List.forall_mem_singleton.mpr ⟨?_, ?_⟩⟩
    all_goals exact Table.sorted_iff_keys.mpr (by decide)

theorem baseAndSetup_merged :
    baseAndSetup.Sound ∧ (baseAndSetup.get "base").PlainNames ∧
    (baseAndSetup.get "setup").PlainNames ∧
    ((baseAndSetup.update "base" fun c =>
      c.mergeAll (baseAndSetup.get "setup")).get "base").toRecord = [
        ("_loopCount:poll", .nat 1), ("_loopCount:retry", .nat 3),
        ("_test", .obj [("name", .str "smoke")]), ("keep", .nat 1), ("shared", .nat 2)] := by
  have hnames : ∀ key ∈ ["keep", "shared"], Context.isBookkeeping key = false := by decide
  have hplain : (baseAndSetup.get "base").PlainNames ∧ (baseAndSetup.get "setup").PlainNames :=
    ⟨fun key hkey => Context.isBookkeeping_eq_false_iff.mp (hnames key hkey),
      fun key hkey => Context.isBookkeeping_eq_false_iff.mp
        (hnames key (List.mem_cons_of_mem _ hkey))⟩
  obtain ⟨-, hrecord, -⟩ := merging_commutes_with_flattening.1 baseAndSetup "base" "setup"
    sound_baseAndSetup hplain.1 hplain.2
  refine ⟨sound_baseAndSetup, hplain.1, hplain.2, hrecord.trans ?_⟩
  rfl

end StepPipeline
