import StepPipeline.Document.Lint
import StepPipeline.Run.Pipeline
import StepPipeline.Template.Environment

/-!
# Building pipelines

A document that is free of errors becomes a pipeline: every step gets its block from the registry,
and the context begins with the document's values, whole-value `${env.NAME}` texts replaced from
the environment.
-/

namespace StepPipeline

/-- What a document is built against: the blocks that are known by tag, and the environment. -/
structure Workbench where
  registry : Registry
  environment : Environment

namespace Workbench

def makeStep (b : Workbench) (spec : StepDescription) : Except Fault Step := do
  let block ← b.registry.create spec.block (spec.configFields?.getD [])
  return {
    id := spec.effectiveId
    block := block
    input := spec.input
    output := spec.output
    config := spec.configFields? }

def initialContext (b : Workbench) (d : Document) : Context :=
  .ofRecord (b.environment.expandFields d.context) d.testInfo?

def build (b : Workbench) (d : Document) : Except Fault Pipeline := do
  let _ ← d.check b.registry
  let steps ← d.pipeline.mapM b.makeStep
  return { steps := steps, state := { context := b.initialContext d } }

end Workbench
end StepPipeline
