import Mathlib.Data.List.Basic
import StepPipeline.Proofs.Template.Texts

/-!
# What resolving reads of the data bus

A placeholder reads the bus only if the context lacks its key, and then it asks for its whole path
and for the first part of it (`DataBus.namesRead`). A text without placeholders asks for its own
name. There is nothing else that a value reads (`resolveWithin_congr`), so two buses that agree on
these reads cannot be told apart by it, and a slot under a name whose reads are all bound by the
context (`Json.BindsReads`) may hold anything.

Main statement: `context_not_shadowed`.
-/

namespace StepPipeline

/-! ## What is read -/

def Template.paths (text : String) : List String :=
  (pieces text.toList).filterMap fun
    | .slot path => some (String.ofList path)
    | .char _ => none

namespace Json

def paths (v : Json) : List String := v.texts.flatMap Template.paths

def plainTexts (v : Json) : List String := v.texts.filter fun text => !Template.hasSlot text

end Json

namespace DataBus

/-- The names under which a path is looked for: the path itself, and its first part. -/
def namesRead (path : String) : List String :=
  match Path.parse path with
  | .key name :: _ => [path, name]
  | _ => [path]

theorem mem_namesRead_self (path : String) : path ∈ namesRead path := by
  unfold namesRead
  split <;> exact List.mem_cons_self

theorem lookup?_congr {b b' : DataBus} {path : String}
    (h : ∀ name ∈ namesRead path, b.get? name = b'.get? name) :
    b.lookup? path = b'.lookup? path := by
  unfold lookup?
  rw [h path (mem_namesRead_self path)]
  cases b'.get? path with
  | some v => rfl
  | none =>
      dsimp only
      split
      · next name rest hparse =>
        have hname : name ∈ namesRead path := by
          unfold namesRead
          rw [hparse]
          exact List.mem_cons_of_mem _ List.mem_cons_self
        rw [h name hname]
      · rfl

end DataBus

/-- All reads of a slot that a value makes are bound by the context: it has the key of each path
that is looked for under this name, and no text is the name itself. -/
structure Json.BindsReads (v : Json) (values : Record) (name : String) : Prop where
  paths : ∀ path ∈ v.paths, name ∈ DataBus.namesRead path →
    Table.contains values (Scope.contextKey path) = true
  texts : name ∉ v.plainTexts

/-! ## Two scopes -/

namespace Scope

variable {s s' : Scope}

/-- A value looks at its texts only: scopes in which these resolve alike resolve it alike. -/
theorem resolveWithin_congr {v : Json}
    (h : ∀ text ∈ v.texts, s.resolveText text = s'.resolveText text) :
    s.resolveWithin v = s'.resolveWithin v := by
  fun_induction Scope.resolveWithin s v with
  | case1 text =>
      rw [resolveWithin]
      exact h text (by simp [Json.texts])
  | case2 items ih =>
      rw [resolveWithin]
      refine congrArg (some ∘ Json.arr) (List.map_congr_left fun v hv => ?_)
      rw [ih v hv fun text htext => h text ?_]
      rw [Json.texts]
      exact List.mem_flatMap.mpr ⟨v, hv, htext⟩
  | case3 fields ih =>
      rw [resolveWithin]
      refine congrArg (some ∘ Json.obj) (List.filterMap_congr fun e he => ?_)
      rw [ih e he fun text htext => h text ?_]
      rw [Json.texts]
      exact List.mem_flatMap.mpr ⟨e, he, htext⟩
  | case4 v hstr harr hobj =>
      cases v <;> simp_all [resolveWithin]

/-- A text looks up its paths, and without any it looks for the slot of its name. -/
theorem resolveText_congr {text : String}
    (hpaths : ∀ path ∈ Template.paths text, s.lookup? path = s'.lookup? path)
    (hplain : Template.hasSlot text = false → s.bus.get? text = s'.bus.get? text) :
    s.resolveText text = s'.resolveText text := by
  cases hslot : Template.hasSlot text with
  | false => rw [resolveText_of_not_hasSlot hslot, resolveText_of_not_hasSlot hslot, hplain hslot]
  | true =>
      have hmem : ∀ path, .slot path ∈ Template.pieces text.toList →
          String.ofList path ∈ Template.paths text := by
        intro path hpath
        exact List.mem_filterMap.mpr ⟨_, hpath, rfl⟩
      unfold resolveText
      split
      · next path hwhole =>
        -- The only piece is the placeholder.
        unfold Template.whole? at hwhole
        split at hwhole
        · next cs hpieces =>
          obtain rfl := Option.some.inj hwhole
          exact hpaths _ (hmem cs (hpieces ▸ List.mem_singleton_self _))
        · cases hwhole
      · have hpieces : ∀ p ∈ Template.pieces text.toList, s.expand p = s'.expand p := by
          intro p hp
          cases p with
          | char c => rfl
          | slot path => rw [expand, expand, hpaths _ (hmem path hp)]
        rw [if_pos hslot, if_pos hslot, List.flatMap_def, List.flatMap_def,
          List.map_congr_left hpieces]

end Scope

/-! ## Two buses -/

section

variable {values : Record} {v : Json} {b b' : DataBus}

/-- Buses that agree on all that is read of them lead to the same resolution. -/
theorem Scope.resolveWithin_eq_of_agree
    (hpaths : ∀ path ∈ v.paths, Table.find? values (Scope.contextKey path) = none →
      b.lookup? path = b'.lookup? path)
    (htexts : ∀ text ∈ v.plainTexts, b.get? text = b'.get? text) :
    (Scope.mk values b).resolveWithin v = (Scope.mk values b').resolveWithin v := by
  refine Scope.resolveWithin_congr fun text htext => ?_
  refine Scope.resolveText_congr (fun path hpath => ?_) fun hplain => ?_
  · cases hbound : Table.find? values (Scope.contextKey path) with
    | some value => rw [Scope.lookup?_of_bound hbound, Scope.lookup?_of_bound hbound]
    | none =>
        rw [Scope.lookup?_of_unbound hbound, Scope.lookup?_of_unbound hbound]
        exact hpaths path (List.mem_flatMap.mpr ⟨text, htext, hpath⟩) hbound
  · exact htexts text (List.mem_filter.mpr ⟨htext, by rw [hplain]; rfl⟩)

/-- What is looked up although the context lacks it is under no name whose reads are bound. -/
theorem lookup?_eq_of_bindsReads {path : String} (hpath : path ∈ v.paths)
    (hfree : Table.find? values (Scope.contextKey path) = none)
    (hbound : ∀ name, b.get? name ≠ b'.get? name → v.BindsReads values name) :
    b.lookup? path = b'.lookup? path := by
  refine DataBus.lookup?_congr fun name hname => ?_
  by_contra hdiffers
  have hcontext := (hbound name hdiffers).paths path hpath hname
  rw [Table.contains, hfree] at hcontext
  cases hcontext

end

/-- **Slots cannot shadow what the context has.** What the context has under the key of a path is
found for it whatever is on the bus. Two buses lead to the same resolution of a value if they agree
on the paths of its placeholders that the context does not have, and on the names that its other
texts are. So it makes no difference which slots there are, and what they hold, under names whose
reads in the value are all bound by the context. -/
theorem context_not_shadowed (values : Record) (v : Json) (b b' : DataBus) :
    (∀ path value, Table.find? values (Scope.contextKey path) = some value →
      (Scope.mk values b).lookup? path = some value) ∧
    ((∀ path ∈ v.paths, Table.find? values (Scope.contextKey path) = none →
        b.lookup? path = b'.lookup? path) →
      (∀ text ∈ v.plainTexts, b.get? text = b'.get? text) →
      (Scope.mk values b).resolveWithin v = (Scope.mk values b').resolveWithin v) ∧
    ((∀ name, b.get? name ≠ b'.get? name → v.BindsReads values name) →
      (Scope.mk values b).resolveWithin v = (Scope.mk values b').resolveWithin v) := by
  refine ⟨fun path value h => Scope.lookup?_of_bound h, Scope.resolveWithin_eq_of_agree,
    fun hbound => Scope.resolveWithin_eq_of_agree ?_ ?_⟩
  · intro path hpath hfree
    exact lookup?_eq_of_bindsReads hpath hfree hbound
  · intro text htext
    by_contra hdiffers
    exact (hbound text hdiffers).texts htext

/-- A request with placeholders whole, embedded, bound by the context and not, and a text that is
the name of a slot. -/
def signedRequest : Json := .obj [
  ("header", .str "Bearer ${env.TOKEN}"),
  ("log", .arr [.str "${user.name}", .str "status ${status}", .str "status"])]

def signingValues : Record := [("TOKEN", .str "secret"), ("user.name", .str "ada")]

/-- A bus with the only slot that is read. -/
def honestBus : DataBus := { slots := [("status", .bool true)] }

/-- A bus with slots under all names that the bound placeholders would ask for. -/
def forgedBus : DataBus where
  slots := [("TOKEN", .str "forged"), ("env", .obj [("TOKEN", .str "forged")]),
    ("env.TOKEN", .str "forged"), ("status", .bool true), ("user", .obj [("name", .str "eve")]),
    ("user.name", .str "eve")]

/-- These slots cannot be told from the resolved request. -/
theorem signedRequest_resolves_alike :
    (∀ name, honestBus.get? name ≠ forgedBus.get? name →
      signedRequest.BindsReads signingValues name) ∧
    (∀ path ∈ signedRequest.paths, Table.find? signingValues (Scope.contextKey path) = none →
      honestBus.lookup? path = forgedBus.lookup? path) ∧
    (∀ text ∈ signedRequest.plainTexts, honestBus.get? text = forgedBus.get? text) ∧
    honestBus.get? "user.name" ≠ forgedBus.get? "user.name" ∧
    (Scope.mk signingValues forgedBus).lookup? "user.name" = some (.str "ada") ∧
    (Scope.mk signingValues honestBus).resolveWithin signedRequest =
      (Scope.mk signingValues forgedBus).resolveWithin signedRequest ∧
    ((Scope.mk signingValues forgedBus).resolveWithin signedRequest).map Json.compact =
      some "\x7b\"header\":\"Bearer secret\",\"log\":[\"ada\",\"status true\",true]\x7d" := by
  have hpaths : signedRequest.paths = ["env.TOKEN", "user.name", "status"] := by decide +kernel
  have htexts : signedRequest.plainTexts = ["status"] := by decide +kernel
  have hstatus : honestBus.get? "status" = forgedBus.get? "status" := rfl
  have hbound : ∀ name, honestBus.get? name ≠ forgedBus.get? name →
      signedRequest.BindsReads signingValues name := by
    intro name hdiffers
    have hname : name ≠ "status" := fun heq => hdiffers (heq ▸ hstatus)
    constructor
    · rw [hpaths]
      have hread : DataBus.namesRead "status" = ["status", "status"] := by decide +kernel
      simp only [List.forall_mem_cons, List.not_mem_nil, hread]
      refine ⟨fun _ => by decide, fun _ => by decide, fun h => absurd h ?_, by simp⟩
      simpa using hname
    · rw [htexts]
      simpa using hname
  have hfree : ∀ path ∈ signedRequest.paths,
      Table.find? signingValues (Scope.contextKey path) = none →
      honestBus.lookup? path = forgedBus.lookup? path := by
    rw [hpaths]
    simp only [List.forall_mem_cons, List.not_mem_nil]
    refine ⟨fun h => ?_, fun h => ?_, fun _ => rfl, by simp⟩
    · cases h
    · cases h
  have hnames : ∀ text ∈ signedRequest.plainTexts,
      honestBus.get? text = forgedBus.get? text := by
    rw [htexts]
    simpa using hstatus
  have hdiffers : honestBus.get? "user.name" ≠ forgedBus.get? "user.name" := by
    rw [show honestBus.get? "user.name" = none from rfl,
      show forgedBus.get? "user.name" = some (.str "eve") from rfl]
    simp
  obtain ⟨-, hagree, hsame⟩ :=
    context_not_shadowed signingValues signedRequest honestBus forgedBus
  refine ⟨hbound, hfree, hnames, hdiffers, ?_, hagree hfree hnames, ?_⟩
  · exact (context_not_shadowed signingValues signedRequest forgedBus honestBus).1 "user.name" _ rfl
  · rw [← hsame hbound]
    decide +kernel

end StepPipeline
