import StepPipeline.Json.Description

/-!
# Reports of a run

What a run did: one result for each executed step, in order, and their counts.

Runs are not told apart by an identifier here; all carry the nil identifier. Nor is time measured:
durations are zero.
-/

namespace StepPipeline

/-- The identifier of every run. -/
def nilRun : String := "00000000-0000-0000-0000-000000000000"

/-- How one visit to a step went; a step that is visited twice has two of them. -/
structure StepResult where
  id : String
  success : Bool
  error : Option String := none
  deriving DecidableEq, Inhabited

/-- The book of a run: its counts and the results in order. -/
structure Summary where
  /-- The number of steps in the pipeline. -/
  total : Nat := 0
  executed : Nat := 0
  succeeded : Nat := 0
  failed : Nat := 0
  hadError : Bool := false
  results : List StepResult := []
  deriving DecidableEq, Inhabited

namespace Summary

def addSuccess (s : Summary) (id : String) : Summary :=
  { s with
    executed := s.executed + 1
    succeeded := s.succeeded + 1
    results := s.results ++ [⟨id, true, none⟩] }

def addFailure (s : Summary) (id error : String) : Summary :=
  { s with
    executed := s.executed + 1
    failed := s.failed + 1
    hadError := true
    results := s.results ++ [⟨id, false, some error⟩] }

end Summary

def StepResult.toJson (r : StepResult) : Json := Json.object [
  ("duration_ms", some (.nat 0)),
  ("error", r.error.map .str),
  ("id", some (.str r.id)),
  ("success", some (.bool r.success))]

def Summary.toJson (s : Summary) : Json := .obj [
  ("duration_ms", .nat 0),
  ("executed", .nat s.executed),
  ("failed", .nat s.failed),
  ("had_error", .bool s.hadError),
  ("results", .arr (s.results.map StepResult.toJson)),
  ("run_id", .str nilRun),
  ("succeeded", .nat s.succeeded),
  ("total_blocks", .nat s.total)]

end StepPipeline
