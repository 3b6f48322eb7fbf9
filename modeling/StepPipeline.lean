import StepPipeline.Blocks.Scripted
import StepPipeline.Main
import StepPipeline.Store.Pool
import StepPipeline.Proofs.Run.Taking
import StepPipeline.Proofs.Run.Visits
import StepPipeline.Proofs.Run.Counters
import StepPipeline.Proofs.Run.Termination
import StepPipeline.Proofs.Run.Reports
import StepPipeline.Proofs.Store.Names
import StepPipeline.Proofs.Template.Texts
import StepPipeline.Proofs.Document.FixedFields
import StepPipeline.Proofs.Run.Assertions
import StepPipeline.Proofs.Json.Canonical
import StepPipeline.Proofs.Document.Reading
import StepPipeline.Proofs.Run.Halting
import StepPipeline.Proofs.Run.Episodes
import StepPipeline.Proofs.Store.Bookkeeping
import StepPipeline.Proofs.Store.Views
import StepPipeline.Proofs.Suite.Handover
import StepPipeline.Proofs.Run.Slots
import StepPipeline.Proofs.Path.Writing
import StepPipeline.Proofs.Path.Frame
import StepPipeline.Proofs.Condition.Checking
import StepPipeline.Proofs.Document.CheckedConditions
import StepPipeline.Proofs.Run.Jumps
import StepPipeline.Proofs.Run.Passes
import StepPipeline.Proofs.Document.ReadingBack
import StepPipeline.Proofs.Suite.Accounting
import StepPipeline.Proofs.Document.Targets
import StepPipeline.Proofs.Document.Acceptance
import StepPipeline.Proofs.Template.Substitution
import StepPipeline.Proofs.Run.Caps
import StepPipeline.Proofs.Template.Reads
import StepPipeline.Proofs.Template.Structure
import StepPipeline.Proofs.Template.Expansion
import StepPipeline.Proofs.Run.Gathering
import StepPipeline.Proofs.Condition.Agreement
import StepPipeline.Proofs.Condition.Negation
import StepPipeline.Proofs.Json.Floats
import StepPipeline.Proofs.Condition.Equality
import StepPipeline.Proofs.Path.Parts
import StepPipeline.Proofs.Path.Slices
import StepPipeline.Proofs.Path.Notations
import StepPipeline.Proofs.Json.Compact
import StepPipeline.Proofs.Json.Reading
import StepPipeline.Proofs.Json.RoundTrip
import StepPipeline.Proofs.Blocks.Streams
import StepPipeline.Proofs.Run.MissingInputs
import StepPipeline.Proofs.Store.Merging
import StepPipeline.Proofs.Cli.Assignments
import StepPipeline.Proofs.Cli.Overrides
