import Mathlib.Algebra.Order.BigOperators.Group.List
import Mathlib.Algebra.Order.Ring.Nat
import StepPipeline.Proofs.Run.Counters

/-!
# Every run ends

The cursor goes back as well as forth, so the measure has two parts. `Context.jumpsLeft` sums, over
all names that a jump can be counted under, how far the counter is from a common bound of the
caps: a jump takes one away, and nothing else adds to it. Weighted with the number of steps, and
with the steps ahead of the cursor added, it is `Machine.potential`, which every visit lowers.

A pipeline of `n` steps has `2 * n` such names, since a target is an id or a position. Main
statement: `run_ends`.
-/

namespace StepPipeline

/-! ## The names of targets -/

/-- The names that a jump can be counted under: the ids of the steps, and their positions. -/
def jumpNames (steps : List Step) : List String :=
  steps.map Step.id ++ (List.range steps.length).map fun i => (Json.nat i).toText

/-- Each step can be targeted by its id and by its position. -/
theorem length_jumpNames (steps : List Step) : (jumpNames steps).length = 2 * steps.length := by
  simp only [jumpNames, List.length_append, List.length_map, List.length_range]
  omega

/-- A target that denotes a step has one of these names. -/
theorem toText_mem_jumpNames {steps : List Step} {loopTo : Json} {target : Nat}
    (h : targetIndex? steps loopTo = some target) (hlt : target < steps.length) :
    loopTo.toText ∈ jumpNames steps := by
  unfold targetIndex? at h
  split at h
  · next n =>
    -- Only an integer is a position, and it is written as the position is.
    unfold Number.toIndex? at h
    split at h
    · next z =>
      split at h
      · next hz =>
        obtain rfl := Option.some.inj h
        refine List.mem_append_right _ (List.mem_map.mpr ⟨z.toNat, List.mem_range.mpr hlt, ?_⟩)
        rw [Json.nat, Int.toNat_of_nonneg hz.1]
      · cases h
    · cases h
  · -- A text is its own name, and that of the step which has it as id.
    next id =>
    obtain ⟨hbound, hid, -⟩ := List.findIdx?_eq_some_iff_getElem.mp h
    refine List.mem_append_left _ (List.mem_map.mpr ⟨_, List.getElem_mem hbound, ?_⟩)
    simpa [Json.toText] using hid
  · cases h

/-- Needed for the measure: a granted jump takes from one of the counters that are summed, and it
lowers the cursor. -/
theorem jumpAsked?_eq_some {steps : List Step} {index target : Nat} {output : Record}
    {key : String} (h : jumpAsked? steps index output = some (key, target))
    (hindex : index < steps.length) : key ∈ jumpNames steps ∧ target < index := by
  obtain ⟨loopTo, -, h⟩ := Option.bind_eq_some_iff.mp h
  obtain ⟨found, hfound, heq⟩ := Option.map_eq_some_iff.mp h
  obtain ⟨htarget, hlt⟩ := Option.filter_eq_some_iff.mp hfound
  obtain ⟨rfl, rfl⟩ := Prod.mk.inj heq
  have hlt' : found < index := by simpa using hlt
  exact ⟨toText_mem_jumpNames htarget (hlt'.trans hindex), hlt'⟩

/-! ## The jumps that are left -/

namespace Context

/-- How many more jumps the counters of the given names can take below `cap`. -/
def jumpsLeft (c : Context) (cap : Nat) (names : List String) : Nat :=
  (names.map fun name => cap - (c.jumpCount name).toNat).sum

variable {c c' : Context} {cap : Nat} {names : List String}

/-- No name can take more than `cap` jumps. -/
theorem jumpsLeft_le (c : Context) (cap : Nat) (names : List String) :
    c.jumpsLeft cap names ≤ names.length * cap := by
  have h : c.jumpsLeft cap names ≤ (names.map fun _ => cap).sum :=
    List.sum_le_sum fun name _ => Nat.sub_le ..
  simpa using h

/-- Blocks that keep the counters make no new jumps possible. -/
theorem jumpsLeft_mono (h : ∀ name, c.jumpCount name ≤ c'.jumpCount name) :
    c'.jumpsLeft cap names ≤ c.jumpsLeft cap names :=
  List.sum_le_sum fun name _ => Nat.sub_le_sub_left (UInt32.le_iff_toNat_le.mp (h name)) cap

/-- A jump that was counted is no longer left. -/
theorem jumpsLeft_countJump_lt {key : String} (hkey : key ∈ names)
    (hlt : (c.jumpCount key).toNat < cap) (hcap : cap < UInt32.size) :
    (c.countJump key).jumpsLeft cap names < c.jumpsLeft cap names := by
  have hself : ((c.countJump key).jumpCount key).toNat = (c.jumpCount key).toNat + 1 :=
    toNat_jumpCount_countJump (by omega)
  refine List.sum_lt_sum _ _ ?_ ⟨key, hkey, by omega⟩
  intro name _
  by_cases hname : name = key
  · subst hname
    omega
  · rw [jumpCount_countJump_of_ne c hname]

end Context

/-! ## The measure -/

/-- The cap that the engine reads in a visit, if it reads one. -/
def Visit.cap? (steps : List Step) (v : Visit) : Option Nat :=
  match v.outcome with
  | .success output =>
    if asksForEnd output then none
    else (jumpAsked? steps v.index output).map fun _ => loopCap output
  | _ => none

/-- A cap that is read is sent with a successful output, or is the default. -/
theorem Visit.cap?_le {steps : List Step} {v : Visit} {cap : Nat}
    (h : ∀ output, v.outcome = .success output → loopCap output ≤ cap) (read : Nat)
    (hread : v.cap? steps = some read) : read ≤ cap := by
  unfold Visit.cap? at hread
  split at hread
  · next output hout =>
    split at hread
    · cases hread
    · obtain ⟨-, -, rfl⟩ := Option.map_eq_some_iff.mp hread
      exact h output hout
  · cases hread

/-- A jump goes strictly back. -/
theorem Visit.lt_of_motion_back {steps : List Step} (v : Visit) (hindex : v.index < steps.length)
    {target : Nat} (h : v.motion steps = .back target) : target < v.index := by
  rcases v.context_after steps with ⟨-, hmotion⟩ | ⟨_, _, _, -, -, hasked, -, -, hmotion⟩
  · exact absurd h (hmotion target)
  · obtain rfl := Motion.back.inj (hmotion.symm.trans h)
    exact (jumpAsked?_eq_some hasked hindex).2

namespace Machine

variable {steps : List Step} {cap : Nat}

/-- How many visits a machine can still make while all caps are at most `cap`. -/
def potential (steps : List Step) (cap : Nat) (m : Machine) : Nat :=
  m.state.context.jumpsLeft cap (jumpNames steps) * steps.length + (steps.length - m.cursor)

/-- At the first step the potential is the bound of `run_ends`. -/
theorem potential_le (m : Machine) (h : m.cursor = 0) :
    potential steps cap m ≤ steps.length * (1 + 2 * steps.length * cap) := by
  have hleft := Nat.mul_le_mul_right steps.length
    (m.state.context.jumpsLeft_le cap (jumpNames steps))
  rw [length_jumpNames] at hleft
  unfold potential
  rw [h, Nat.mul_add, Nat.mul_one, Nat.mul_comm steps.length (_ * _)]
  omega

/-- What a visit has to meet: its block keeps the counters, and the cap that is read is in
bounds. -/
def InBounds (steps : List Step) (cap : Nat) (v : Visit) : Prop :=
  v.step.block.KeepsCounts ∧ ∀ read, v.cap? steps = some read → read ≤ cap

/-- A visit that jumps back is paid by the jump, any other by the step that it leaves behind. -/
theorem potential_advance_lt {m : Machine} {v : Visit} (h : m.next? steps = some v)
    (hbounds : InBounds steps cap v) (hcap : cap < UInt32.size) :
    potential steps cap (m.advance steps) < potential steps cap m := by
  obtain ⟨hstep, hbefore, hindex⟩ := next?_eq_some h
  have hlt : m.cursor < steps.length := by
    rw [← hindex]
    exact (List.getElem?_eq_some_iff.mp hstep).1
  -- Whatever the block wrote, it left no more jumps than there were.
  have hcalled : v.called.1.context.jumpsLeft cap (jumpNames steps) ≤
      m.state.context.jumpsLeft cap (jumpNames steps) := by
    rw [← hbefore]
    exact Context.jumpsLeft_mono (Visit.jumpCount_le_called hbounds.1)
  rw [advance_of_next? h]
  unfold potential
  dsimp only
  rcases v.context_after steps with ⟨hctx, hmotion⟩ | ⟨output, key, target, hout, hend, hasked,
    hbelow, hctx, hmotion⟩
  · -- No jump: the cursor comes closer to the end, or goes there at once.
    rw [hctx]
    have hmul := Nat.mul_le_mul_right steps.length hcalled
    have hcursor : m.cursor < (v.motion steps).cursor steps.length v.index := by
      cases hm : v.motion steps with
      | onward => simp [Motion.cursor, hindex]
      | back target => exact absurd hm (hmotion target)
      | stop => exact hlt
    omega
  · rw [hctx, hmotion]
    have hread : loopCap output ≤ cap := hbounds.2 _ (by simp [Visit.cap?, hout, hend, hasked])
    have hkey := (jumpAsked?_eq_some hasked (hindex ▸ hlt)).1
    have hleft := Context.jumpsLeft_countJump_lt hkey (hbelow.trans_le hread) hcap
    -- One jump less is worth a whole walk through the steps.
    have hmul := Nat.mul_le_mul_right steps.length (Nat.succ_le_of_lt (hleft.trans_le hcalled))
    rw [Nat.succ_mul] at hmul
    simp only [Motion.cursor]
    omega

/-- The visits of a run use up its potential. -/
theorem potential_run_add_length_le {moves : Nat} {m : Machine}
    (hbounds : ∀ v ∈ visits steps moves m, InBounds steps cap v) (hcap : cap < UInt32.size) :
    potential steps cap (run steps moves m) + (visits steps moves m).length ≤
      potential steps cap m := by
  -- Induction on the moves: each visit lowers the potential by at least one.
  induction moves generalizing m with
  | zero => simp
  | succ moves ih =>
      cases h : m.next? steps with
      | none =>
          rw [run_of_finished (finished_iff.mpr h), visits_succ_of_none h]
          simp
      | some v =>
          rw [visits_succ_of_some h] at hbounds ⊢
          have hlt := potential_advance_lt h (hbounds v List.mem_cons_self) hcap
          have hrest := ih (m := m.advance steps) fun w hw => hbounds w (List.mem_cons_of_mem _ hw)
          rw [run_succ, List.length_cons]
          omega

/-- With as many moves as it has potential, a run comes to its end. -/
theorem finished_of_potential_le {moves : Nat} {m : Machine}
    (hbounds : ∀ v ∈ visits steps moves m, InBounds steps cap v) (hcap : cap < UInt32.size)
    (hmoves : potential steps cap m ≤ moves) : (run steps moves m).finished steps = true := by
  by_contra hnot
  have hle := potential_run_add_length_le hbounds hcap
  have hlength := length_visits_of_not_finished hnot
  have hpos : 0 < potential steps cap (run steps moves m) := by
    simp only [finished, decide_eq_true_eq] at hnot
    unfold potential
    omega
  omega

/-- The cursor never leaves the list by more than its end. -/
theorem cursor_run_le {m : Machine} (h : m.cursor ≤ steps.length) (moves : Nat) :
    (run steps moves m).cursor ≤ steps.length := by
  -- By invariance: a jump goes back and a step goes on by one, so only the end is ever reached from
  -- inside.
  refine run_invariant (P := fun m => m.cursor ≤ steps.length) h ?_ moves
  intro m v hnext hle
  rw [advance_of_next? hnext]
  obtain ⟨hstep, -, hindex⟩ := next?_eq_some hnext
  have hlt : v.index < steps.length := (List.getElem?_eq_some_iff.mp hstep).1
  cases hmotion : v.motion steps with
  | onward => exact hlt
  | back target => exact (v.lt_of_motion_back hlt hmotion).le.trans hlt.le
  | stop => exact Nat.le_refl _

end Machine

/-! ## Runs of pipelines -/

/-- **Every run ends.** Blocks may write values as they like but lower no counter, and the caps
that the engine reads are at most `M`, which fits a counter. Then at most `n * (1 + 2 * n * M)`
steps are taken, more moves than that change nothing, the cursor stays in the list, and a jump goes
back. The standard blocks lower no counter. -/
theorem run_ends (p : Pipeline) (input initial : Record) {M : Nat} (hM : M ≤ 2 ^ 32 - 1)
    (hblocks : ∀ step ∈ p.steps, step.block.KeepsCounts)
    (hcaps : ∀ moves, ∀ v ∈ p.visits moves input initial, ∀ cap,
      v.cap? p.steps = some cap → cap ≤ M) :
    let n := p.steps.length
    let bound := n * (1 + 2 * n * M)
    let reached := fun moves => Machine.run p.steps moves (p.machine input initial)
    (∀ moves, (p.visits moves input initial).length ≤ bound) ∧
    (∀ moves, bound ≤ moves →
      (reached moves).finished p.steps = true ∧
      p.runFor moves input initial = p.run input initial) ∧
    (∀ moves, (reached moves).cursor ≤ n) ∧
    (∀ moves, ∀ v ∈ p.visits moves input initial,
      p.steps[v.index]? = some v.step ∧
      ∀ target, v.motion p.steps = .back target → target < v.index) ∧
    ∀ transport type config block,
      (Registry.standardWith transport).create type config = .ok block → block.KeepsCounts := by
  intro n bound reached
  have hsize : M < UInt32.size := by
    have : UInt32.size = 2 ^ 32 := rfl
    omega
  have hstep : ∀ moves, ∀ v ∈ p.visits moves input initial, p.steps[v.index]? = some v.step :=
    fun moves v hv => Pipeline.getElem?_steps_of_mem_visits hv
  have hbounds : ∀ moves, ∀ v ∈ p.visits moves input initial,
      Machine.InBounds p.steps M v := by
    intro moves v hv
    exact ⟨hblocks v.step (List.mem_of_getElem? (hstep moves v hv)), hcaps moves v hv⟩
  have hpotential : Machine.potential p.steps M (p.machine input initial) ≤ bound :=
    Machine.potential_le _ rfl
  have hfinished : ∀ moves, bound ≤ moves → (reached moves).finished p.steps = true := by
    intro moves hmoves
    exact Machine.finished_of_potential_le (hbounds moves) hsize (hpotential.trans hmoves)
  have hbudget : bound ≤ Pipeline.stepBudget n := by
    show n * (1 + 2 * n * M) ≤ n * (1 + 2 * n * (UInt32.size - 1))
    exact Nat.mul_le_mul_left _ (Nat.add_le_add_left (Nat.mul_le_mul_left _ (by omega)) _)
  refine ⟨?_, ?_, ?_, ?_, ?_⟩
  · intro moves
    have := Machine.potential_run_add_length_le (hbounds moves) hsize
    show (Machine.visits p.steps moves (p.machine input initial)).length ≤ bound
    omega
  · intro moves hmoves
    refine ⟨hfinished moves hmoves, Pipeline.runFor_congr ?_⟩
    show reached moves = reached (Pipeline.stepBudget n)
    rw [show reached moves = reached bound from
        Machine.run_eq_of_finished hmoves (hfinished bound (Nat.le_refl _)),
      show reached (Pipeline.stepBudget n) = reached bound from
        Machine.run_eq_of_finished hbudget (hfinished bound (Nat.le_refl _))]
  · intro moves
    exact Machine.cursor_run_le (Nat.zero_le _) moves
  · intro moves v hv
    refine ⟨hstep moves v hv, fun target hback => ?_⟩
    exact v.lt_of_motion_back (List.getElem?_eq_some_iff.mp (hstep moves v hv)).1 hback
  · intro transport type config block hmade
    exact (leavesContext_of_create hmade).keepsCounts

def pauseAndLoop : Pipeline where
  steps := [
    { id := "pause", block := Blocks.delay },
    { id := "again", block := Blocks.loop, input := some (.record []),
      config := some [("target", .str "pause")] }]

/-- The loop sends the cap 10, so two steps are taken at most 82 times. -/
theorem pauseAndLoop_ends :
    (∀ step ∈ pauseAndLoop.steps, step.block.KeepsCounts) ∧
    (∀ moves, ∀ v ∈ pauseAndLoop.visits moves [] [], ∀ cap,
      v.cap? pauseAndLoop.steps = some cap → cap ≤ 10) ∧
    (∀ moves, (pauseAndLoop.visits moves [] []).length ≤ 82) ∧
    pauseAndLoop.runFor 82 [] [] = pauseAndLoop.run [] [] := by
  have hblocks : ∀ step ∈ pauseAndLoop.steps, step.block.KeepsCounts := by
    intro step hstep
    simp only [pauseAndLoop, List.mem_cons, List.not_mem_nil, or_false] at hstep
    rcases hstep with rfl | rfl
    · exact Block.LeavesContext.keepsCounts Block.leavesContext_reading
    · exact Block.LeavesContext.keepsCounts Block.leavesContext_reading
  have hcaps : ∀ moves, ∀ v ∈ pauseAndLoop.visits moves [] [], ∀ cap,
      v.cap? pauseAndLoop.steps = some cap → cap ≤ 10 := by
    intro moves v hv
    have hstep := List.mem_of_getElem? (Pipeline.getElem?_steps_of_mem_visits hv)
    refine Visit.cap?_le fun output hout => ?_
    have hresult := (v.answer_of_success hout).1
    obtain ⟨before, index, step⟩ := v
    simp only [pauseAndLoop, List.mem_cons, List.not_mem_nil, or_false] at hstep
    rcases hstep with rfl | rfl
    · obtain rfl := Except.ok.inj hresult
      exact Nat.le_of_eq rfl
    · obtain rfl := Except.ok.inj hresult
      show loopCap (Blocks.loopOutput (Visit.inputs _) _ _ true) ≤ 10
      rw [show Visit.inputs _ = [("target", .str "pause")] from rfl]
      exact Nat.le_of_eq rfl
  obtain ⟨hlength, hrun, -⟩ := run_ends pauseAndLoop [] [] (by decide) hblocks hcaps
  exact ⟨hblocks, hcaps, hlength, (hrun 82 (Nat.le_refl _)).2⟩

end StepPipeline
