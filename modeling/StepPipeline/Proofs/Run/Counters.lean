import StepPipeline.Blocks.Standard
import StepPipeline.Proofs.Run.Visits
import StepPipeline.Proofs.Store.Names

/-!
# Blocks and the counters of jumps

The counters of jumps belong to the engine, but a block gets the whole context. What laws about
loops ask of blocks is said here: `Block.LeavesContext`, and the weaker `Block.KeepsCounts`, which
lets a block write values as it likes. The standard blocks have both (`leavesContext_of_create`).
-/

namespace StepPipeline

/-- What every maker of a registry gives its blocks holds of every block that is made. -/
theorem Registry.forall_of_create {r : Registry} {P : Block → Prop}
    (h : ∀ e ∈ r, ∀ config block, e.2 config = .ok block → P block)
    {type : String} {config : Record} {block : Block} (hmade : r.create type config = .ok block) :
    P block := by
  unfold Registry.create at hmade
  split at hmade
  · next make hmake => exact h _ (Table.mem_of_find? hmake) config block hmade
  · cases hmade

/-! ## Blocks and the context -/

namespace Block

def LeavesContext (b : Block) : Prop :=
  ∀ calls inputs context, (b.process calls inputs context).context = context

/-- The block never lowers a counter. -/
def KeepsCounts (b : Block) : Prop :=
  ∀ calls inputs context target,
    context.jumpCount target ≤ (b.process calls inputs context).context.jumpCount target

/-- Needed wherever the standard blocks meet a law that asks for less than they give. -/
theorem LeavesContext.keepsCounts {b : Block} (h : b.LeavesContext) : b.KeepsCounts := by
  intro calls inputs context target
  rw [h calls inputs context]
  exact UInt32.le_refl _

/-- The block leaves the counters as they are; values it may write as it likes. -/
def LeavesCounts (b : Block) : Prop :=
  ∀ calls inputs context target,
    (b.process calls inputs context).context.jumpCount target = context.jumpCount target

theorem LeavesContext.leavesCounts {b : Block} (h : b.LeavesContext) : b.LeavesCounts := by
  intro calls inputs context target
  rw [h calls inputs context]

/-- A block made with `reading` is not given the means to change the context. -/
theorem leavesContext_reading {type : String} {inputs : InputNames} {outputs : OutputNames}
    {result : Record → Context → Except Fault Record} :
    (reading type inputs outputs result).LeavesContext :=
  fun _ _ _ => rfl

end Block

/-- The standard blocks leave the context as it is. -/
theorem leavesContext_of_create {transport : Http.Transport} {type : String} {config : Record}
    {block : Block} (h : (Registry.standardWith transport).create type config = .ok block) :
    block.LeavesContext := by
  refine Registry.forall_of_create ?_ h
  intro e he config block hmade
  simp only [Registry.standardWith, List.mem_cons, List.not_mem_nil, or_false] at he
  rcases he with rfl | rfl | rfl | rfl | rfl | rfl | rfl
  case inr.inr.inl =>
    -- Only the maker of requests looks at the `config`.
    simp only [Blocks.makeHttpRequest] at hmade
    split at hmade
    · obtain rfl := Except.ok.inj hmade
      exact Block.leavesContext_reading
    · split at hmade
      · obtain rfl := Except.ok.inj hmade
        exact Block.leavesContext_reading
      · cases hmade
  all_goals
    obtain rfl := Except.ok.inj hmade
    exact Block.leavesContext_reading

/-! ## Counters along a run -/

/-- A step whose block keeps the counters does not lower one before it is settled. -/
theorem Visit.jumpCount_le_called {v : Visit} (h : v.step.block.KeepsCounts) (target : String) :
    v.before.context.jumpCount target ≤ v.called.1.context.jumpCount target := by
  rcases v.called_context with hctx | hctx
  · rw [hctx]
    exact UInt32.le_refl _
  · rw [hctx]
    exact h ..

/-- A step whose block leaves the counters is settled with those that it found. -/
theorem Visit.jumpCount_called {v : Visit} (h : v.step.block.LeavesCounts) (target : String) :
    v.called.1.context.jumpCount target = v.before.context.jumpCount target := by
  rcases v.called_context with hctx | hctx
  · rw [hctx]
  · rw [hctx]
    exact h ..

/-- Counting a jump adds one to its counter, as long as that is below its greatest value. -/
theorem Context.toNat_jumpCount_countJump {c : Context} {key : String}
    (h : (c.jumpCount key).toNat + 1 < UInt32.size) :
    ((c.countJump key).jumpCount key).toNat = (c.jumpCount key).toNat + 1 := by
  rw [Context.jumpCount_countJump_self, UInt32.toNat_add]
  exact Nat.mod_eq_of_lt h

end StepPipeline
