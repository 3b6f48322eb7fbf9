import StepPipeline.Store.Context

/-!
# Handles on contexts

A context is shared by all who hold a handle on it. A pool gives names to handles: a name that is
used for the first time is a handle on a fresh context, and a second name for the same context
sees every change that is made through the first.
-/

namespace StepPipeline

/-- Contexts, and the names of the handles on them. -/
structure ContextPool where
  contexts : List Context := []
  /-- The position of the context that each handle is on. -/
  handles : Table Nat := []
  deriving Inhabited

namespace ContextPool

/-- Make a handle on a fresh context; a handle of that name is let go. -/
def create (p : ContextPool) (name : String) (c : Context) : ContextPool where
  contexts := p.contexts ++ [c]
  handles := Table.insert p.handles name p.contexts.length

/-- The pool in which `name` is a handle, on a fresh context if it was none. -/
def ensure (p : ContextPool) (name : String) : ContextPool :=
  if Table.contains p.handles name then p else p.create name {}

def get (p : ContextPool) (name : String) : Context :=
  (((Table.find? p.handles name).bind fun i => p.contexts[i]?)).getD {}

def update (p : ContextPool) (name : String) (f : Context → Context) : ContextPool :=
  match Table.find? p.handles name with
  | some i => { p with contexts := p.contexts.modify i f }
  | none => p.create name (f {})

/-- Make `other` a handle on the context of `name`. -/
def share (p : ContextPool) (name other : String) : ContextPool :=
  let p := p.ensure name
  match Table.find? p.handles name with
  | some i => { p with handles := Table.insert p.handles other i }
  | none => p

end ContextPool
end StepPipeline
