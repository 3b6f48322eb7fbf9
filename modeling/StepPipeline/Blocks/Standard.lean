import StepPipeline.Blocks.Assertion
import StepPipeline.Blocks.Parsing
import StepPipeline.Blocks.Request
import StepPipeline.Blocks.Steering

/-!
# The standard blocks

The registry of the seven blocks that every document may use.
-/

namespace StepPipeline

def Registry.standardWith (transport : Http.Transport) : Registry := [
  ("assert", fun _ => .ok Blocks.assertion),
  ("delay", fun _ => .ok Blocks.delay),
  ("http_request", Blocks.makeHttpRequest transport),
  ("json_parser", fun _ => .ok Blocks.jsonParser),
  ("loop", fun _ => .ok Blocks.loop),
  ("stream_parser", fun _ => .ok Blocks.streamParser),
  ("terminate", fun _ => .ok Blocks.terminate)]

/-- The standard blocks, without a network. -/
def Registry.standard : Registry := standardWith Http.Transport.offline

end StepPipeline
