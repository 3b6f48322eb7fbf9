import StepPipeline.Proofs.Store.Names
import StepPipeline.Proofs.Template.Substitution
import StepPipeline.Run.State

/-!
# Three ways to read a path from the data bus

A step can ask for what a path leads to by a template, by naming the source, or by a placeholder in
a record of inputs. The first and the last look into the context before they come to the bus, so
for a path that the context does not have all three come to the same `DataBus.lookup?`, and it
makes no difference either if nothing is found. The `config` is laid over the result in all of them.

Main statement: `ways_to_read_agree`.
-/

namespace StepPipeline

namespace Step

/-- The inputs that a step would gather with another description of their source, if this is a
description of one. -/
def gatherFrom (step : Step) (description : Json) (scope : Scope) : Option Record :=
  (InputSource.ofJson? description).map fun source =>
    ({ step with input := some source } : Step).gather scope

/-- The input `body`, if there is something that it holds. -/
def bodyOf (found : Option Json) : Record := found.toList.map fun value => ("body", value)

variable {step : Step} {scope : Scope} {text path : String}

/-- A template that resolves to nothing supplies no input at all. -/
theorem supplied_of_template (hinput : step.input = some (.template text)) :
    step.supplied scope = bodyOf (scope.resolveText text) := by
  rw [supplied, hinput]
  dsimp only
  cases scope.resolveText text <;> rfl

/-- A source is read from the bus alone, past the context. -/
theorem supplied_of_source (hinput : step.input = some (.source path (some "body"))) :
    step.supplied scope = bodyOf (scope.bus.lookup? path) := by
  rw [supplied, hinput]
  dsimp only
  cases scope.bus.lookup? path <;> rfl

/-- A field that resolves to nothing is dropped, so the record is as empty as in the other two
ways. -/
theorem supplied_of_record (hinput : step.input = some (.record [("body", .str text)])) :
    step.supplied scope = bodyOf (scope.resolveText text) := by
  rw [supplied, hinput]
  show scope.resolveFields _ = _
  rw [Scope.resolveFields, List.filterMap_cons, Scope.resolveWithin]
  cases scope.resolveText text <;> rfl

end Step

/-- **Three ways to read a path agree.** In every state whose context does not have the key of a
path, a step gathers the same inputs whether it is given the placeholder of the path as a template,
the path as a source that is to be called `body`, or a record with the placeholder under `body`:
what the bus has for the path, if anything, with the `config` over it as it is written. -/
theorem ways_to_read_agree (s : State) (step : Step) (p : Template.SlotPath)
    (hfree : s.context.get? (Scope.contextKey p.name) = none) :
    let inputs := Table.overlay (Step.bodyOf (s.bus.lookup? p.name)) (step.config.getD [])
    step.gatherFrom (.str p.placeholder) s.scope = some inputs ∧
    step.gatherFrom (.obj [("as", .str "body"), ("from", .str p.name)]) s.scope = some inputs ∧
    step.gatherFrom (.obj [("body", .str p.placeholder)]) s.scope = some inputs ∧
    ∀ config, step.config = some config → Table.NamesOnce config →
      ∀ key value, Table.find? config key = some value → Table.find? inputs key = some value := by
  intro inputs
  have hgather : ∀ description source, InputSource.ofJson? description = some source →
      ({ step with input := some source } : Step).supplied s.scope =
        Step.bodyOf (s.bus.lookup? p.name) →
      step.gatherFrom description s.scope = some inputs := by
    intro description source hread hsupplied
    rw [Step.gatherFrom, hread, Option.map_some, Step.gather, hsupplied]
  -- The context has no value for the path, so the placeholder comes to the bus as the source does.
  have hfound : s.scope.resolveText p.placeholder = s.bus.lookup? p.name := by
    rw [Scope.resolveText_placeholder]
    exact Scope.lookup?_of_unbound hfree
  refine ⟨hgather _ (.template p.placeholder) rfl ?_,
    hgather _ (.source p.name (some "body")) rfl (Step.supplied_of_source rfl),
    hgather _ (.record [("body", .str p.placeholder)]) rfl ?_, ?_⟩
  · rw [Step.supplied_of_template rfl, hfound]
  · rw [Step.supplied_of_record rfl, hfound]
  · intro config hconfig honce key value hvalue
    show Table.find? (Table.overlay _ (step.config.getD [])) key = _
    rw [hconfig, Option.getD_some, Table.find?_overlay _ honce, hvalue]
    rfl

/-- A state with a slot that is named like the mark of the environment, and a key in the context
that is spelled like a path into it and never read. -/
def repliedState : State where
  bus := { slots := [("env", .obj [("reply", .arr [.bool true])])] }
  context := { values := [("env.reply[0]", .null)] }

def replyPath : Template.SlotPath := { chars := "env.reply[0]".toList }

def gonePath : Template.SlotPath := { chars := "env.gone".toList }

def replyStep : Step where
  id := "pause"
  block := Blocks.delay
  config := some [("note", .str "${env.reply}")]

/-- Found or not, the step gathers the same in all three ways, and its `config` as it is. -/
theorem replyStep_gathers_alike :
    repliedState.context.get? (Scope.contextKey replyPath.name) = none ∧
    repliedState.context.get? (Scope.contextKey gonePath.name) = none ∧
    Table.NamesOnce [("note", Json.str "${env.reply}")] ∧
    Table.find? (Table.overlay (Step.bodyOf (repliedState.bus.lookup? replyPath.name))
      (replyStep.config.getD [])) "note" = some (.str "${env.reply}") ∧
    (∀ description ∈ [Json.str "${env.reply[0]}",
        .obj [("as", .str "body"), ("from", .str "env.reply[0]")],
        .obj [("body", .str "${env.reply[0]}")]],
      replyStep.gatherFrom description repliedState.scope =
        some [("body", .bool true), ("note", .str "${env.reply}")]) ∧
    ∀ description ∈ [Json.str "${env.gone}", .obj [("as", .str "body"), ("from", .str "env.gone")],
        .obj [("body", .str "${env.gone}")]],
      replyStep.gatherFrom description repliedState.scope =
        some [("note", .str "${env.reply}")] := by
  have hreply : repliedState.context.get? (Scope.contextKey replyPath.name) = none := rfl
  have hgone : repliedState.context.get? (Scope.contextKey gonePath.name) = none := rfl
  have hfound : repliedState.bus.lookup? replyPath.name = some (.bool true) := rfl
  have hnone : repliedState.bus.lookup? gonePath.name = none := rfl
  have honce : Table.NamesOnce [("note", Json.str "${env.reply}")] := by decide
  obtain ⟨-, -, -, hconfig⟩ := ways_to_read_agree repliedState replyStep replyPath hreply
  refine ⟨hreply, hgone, honce, hconfig _ rfl honce "note" _ rfl, ?_, ?_⟩
  · obtain ⟨htemplate, hsource, hrecord, -⟩ :=
      ways_to_read_agree repliedState replyStep replyPath hreply
    rw [hfound] at htemplate hsource hrecord
    simp only [List.forall_mem_cons, List.not_mem_nil]
    exact ⟨htemplate, hsource, hrecord, by simp⟩
  · obtain ⟨htemplate, hsource, hrecord, -⟩ :=
      ways_to_read_agree repliedState replyStep gonePath hgone
    rw [hnone] at htemplate hsource hrecord
    simp only [List.forall_mem_cons, List.not_mem_nil]
    exact ⟨htemplate, hsource, hrecord, by simp⟩

end StepPipeline
