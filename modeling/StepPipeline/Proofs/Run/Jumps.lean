import StepPipeline.Proofs.Run.Episodes

/-!
# Counters count jumps

A counter belongs to a text: to that of every `_loopTo` that was jumped to. So beside the counters
of a context there is a second way to count, on the list of visits: `jumpsTo` counts the visits that
jumped with a given text, and `Visit.iterations` are the numbers that listeners were told of.
`Context.Tallies` says that both ways agree. A visit keeps it, whatever it asks for
(`Tallies.after`), hence so do a run and, since the context is kept, any number of calls.

What is asked for is read off the output: `Designates` is the meaning of a target, and a request
that designates no earlier step is passed over. Main statement: `counters_count_jumps`.
-/

namespace StepPipeline

variable {steps : List Step}

/-! ## Targets -/

/-- A number designates the step at its position, a text the first step of that id. -/
inductive Designates (steps : List Step) : Json → Nat → Prop where
  | position {index : Nat} (h : index < UInt64.size) : Designates steps (.nat index) index
  | id {id : String} {index : Nat} {step : Step} (h : steps[index]? = some step)
      (hid : step.id = id) (hfirst : ∀ i < index, ∀ earlier, steps[i]? = some earlier →
        earlier.id ≠ id) : Designates steps (.str id) index

/-- The engine's look-up finds a step exactly if the target designates it. -/
theorem targetIndex?_eq_some_iff {loopTo : Json} {index : Nat} :
    targetIndex? steps loopTo = some index ↔ Designates steps loopTo index := by
  constructor
  · intro h
    unfold targetIndex? at h
    split at h
    · -- Only integers in the range of indices are positions.
      next n =>
      unfold Number.toIndex? at h
      split at h
      · next z =>
        split at h
        · next hz =>
          obtain rfl := Option.some.inj h
          have hsize : z.toNat < UInt64.size := by
            have : z < (UInt64.size : Int) := hz.2
            omega
          have hnat : Json.nat z.toNat = .num (.int z) := by
            rw [Json.nat, Int.toNat_of_nonneg hz.1]
          exact hnat ▸ .position hsize
        · cases h
      · cases h
    · -- The search finds the first step of the id, so all earlier ones have another.
      next id =>
      obtain ⟨hbound, hid, hfirst⟩ := List.findIdx?_eq_some_iff_getElem.mp h
      apply Designates.id (List.getElem?_eq_getElem hbound)
      · simpa using hid
      · intro i hi earlier hearlier
        obtain ⟨_, rfl⟩ := List.getElem?_eq_some_iff.mp hearlier
        simpa using hfirst i hi
    · cases h
  · intro h
    cases h with
    | position h =>
        have hint : (index : Int) < (Decimal.indexBound : Int) := by
          show (index : Int) < (UInt64.size : Int)
          omega
        simp [targetIndex?, Json.nat, Number.toIndex?, hint]
    | id h hid hfirst =>
        obtain ⟨hbound, rfl⟩ := List.getElem?_eq_some_iff.mp h
        apply List.findIdx?_eq_some_iff_getElem.mpr
        refine ⟨hbound, by simpa using hid, ?_⟩
        intro i hi
        simpa using hfirst i hi _ (List.getElem?_eq_getElem (hi.trans hbound))

/-- The output asks for a jump from `index` to an earlier step. -/
def AsksFor (steps : List Step) (index : Nat) (output : Record) (loopTo : Json) (target : Nat) :
    Prop :=
  Table.find? output "_loopTo" = some loopTo ∧ Designates steps loopTo target ∧ target < index

/-- What the engine takes for a request is one in the sense of `AsksFor`, counted under the text of
its target. -/
theorem jumpAsked?_eq_some_iff {index target : Nat} {output : Record} {key : String} :
    jumpAsked? steps index output = some (key, target) ↔
      ∃ loopTo, AsksFor steps index output loopTo target ∧ loopTo.toText = key := by
  unfold jumpAsked? AsksFor
  simp only [Option.bind_eq_some_iff, Option.map_eq_some_iff, Option.filter_eq_some_iff,
    targetIndex?_eq_some_iff, Prod.mk.injEq, decide_eq_true_eq]
  constructor
  · rintro ⟨loopTo, hfound, index, hdesignates, hkey, rfl⟩
    exact ⟨loopTo, ⟨hfound, hdesignates⟩, hkey⟩
  · rintro ⟨loopTo, ⟨hfound, hdesignates⟩, hkey⟩
    exact ⟨loopTo, hfound, target, hdesignates, hkey, rfl⟩

/-- Everything else is passed over. -/
theorem jumpAsked?_eq_none_iff {index : Nat} {output : Record} :
    jumpAsked? steps index output = none ↔
      ∀ loopTo target, ¬AsksFor steps index output loopTo target := by
  constructor
  · intro h loopTo target hasks
    have hsome := jumpAsked?_eq_some_iff.mpr ⟨loopTo, hasks, rfl⟩
    rw [h] at hsome
    cases hsome
  · intro h
    -- A request that is found would be one that was ruled out.
    cases hasked : jumpAsked? steps index output with
    | none => rfl
    | some asked =>
        obtain ⟨loopTo, hasks, -⟩ := jumpAsked?_eq_some_iff.mp hasked
        exact absurd hasks (h loopTo asked.2)

/-! ## Jumps -/

def Event.iteration? : Event → Option Nat
  | loopBack _ _ iteration => some iteration
  | _ => none

/-- A jump tells what its counter is behind it. -/
theorem State.events_of_back {index target : Nat} {id key : String} {output : Record} {s : State}
    (hasked : jumpAsked? steps index output = some (key, target))
    (hmotion : (s.steer steps index id output).2 = .back target) :
    ∃ name, (s.steer steps index id output).1.events = s.events ++
      [.loopBack id name ((s.steer steps index id output).1.context.jumpCount key).toNat] := by
  unfold steer at hmotion ⊢
  -- Of the ways to steer only a jump below the cap goes back.
  split at hmotion
  · cases hmotion
  · next hend =>
    rw [if_neg hend]
    rw [hasked] at hmotion ⊢
    dsimp only at hmotion ⊢
    unfold jump at hmotion ⊢
    split at hmotion
    · next hlt =>
      rw [if_pos hlt]
      exact ⟨_, rfl⟩
    · cases hmotion

namespace Visit

variable (steps) (v : Visit)

/-- The text of the target that a visit jumped to, if it jumped. -/
def jumpKey? : Option String :=
  match v.outcome, v.motion steps with
  | .success output, .back _ => (Table.find? output "_loopTo").map Json.toText
  | _, _ => none

def heard : List Event := (v.after steps).events.drop v.before.events.length

def iterations : List Nat := (v.heard steps).filterMap Event.iteration?

variable {steps v}

/-- What is heard of a visit comes behind all earlier events. -/
theorem events_after (hstep : steps[v.index]? = some v.step) :
    (v.after steps).events = v.before.events ++ v.heard steps := by
  obtain ⟨soft, sequel, -, hevents, -⟩ := exists_episode hstep
  rw [heard, hevents, List.drop_left]

theorem jumpKey?_of_stay (h : ∀ target, v.motion steps ≠ .back target) :
    v.jumpKey? steps = none := by
  unfold jumpKey?
  split
  · next target _ hmotion => exact absurd hmotion (h target)
  · rfl

theorem jumpKey?_of_back {output : Record} {loopTo : Json} {target : Nat}
    (hout : v.outcome = .success output) (hfound : Table.find? output "_loopTo" = some loopTo)
    (hmotion : v.motion steps = .back target) : v.jumpKey? steps = some loopTo.toText := by
  rw [jumpKey?, hout, hmotion]
  simp [hfound]

/-- Without a jump no number is told. -/
theorem iterations_of_stay (hstep : steps[v.index]? = some v.step)
    (h : ∀ target, v.motion steps ≠ .back target) : v.iterations steps = [] := by
  obtain ⟨soft, sequel, hsound, hevents, htells⟩ := exists_episode hstep
  have hheard : v.heard steps = (v.episode soft sequel).events := by
    rw [heard, hevents, List.drop_left]
  have hverdict : (v.episode soft sequel).verdict.iteration? = none := by
    unfold Episode.verdict
    split <;> rfl
  -- Only a sequel could tell a number, and one that does tells of a jump.
  have hsequel : sequel.toList.filterMap Event.iteration? = [] := by
    cases sequel with
    | none => rfl
    | some event =>
        have hkind := (hsound.sequel event rfl).2
        generalize (v.episode soft (some event)).result.id = id at hkind
        cases hkind with
        | loopBack name iteration =>
            obtain ⟨target, hback, -⟩ := htells
            exact absurd hback (h target)
        | loopLimitReached name cap => rfl
        | terminated => rfl
  rw [iterations, hheard, Episode.events, List.filterMap_cons_none rfl,
    List.filterMap_cons_none hverdict]
  exact hsequel

/-- With a jump the number told is what the counter is after it. -/
theorem iterations_of_back {output : Record} {key : String} {target : Nat}
    (hout : v.outcome = .success output)
    (hasked : jumpAsked? steps v.index output = some (key, target))
    (hmotion : v.motion steps = .back target) :
    v.iterations steps = [((v.after steps).context.jumpCount key).toNat] := by
  unfold iterations heard after
  unfold motion at hmotion
  rw [taken_of_success hout] at hmotion ⊢
  obtain ⟨name, hevents⟩ := State.events_of_back hasked hmotion
  have hcalled : ((v.called.1.store v.step output).succeed v.step.id).events =
      v.before.events ++ [.stepStarted v.step.id v.step.block.type v.index] ++
        [.stepCompleted v.step.id 0] :=
    congrArg (· ++ [Event.stepCompleted v.step.id 0]) v.events_called
  rw [hevents, hcalled, List.append_assoc, List.append_assoc, List.drop_left]
  rfl

end Visit

/-! ## Two ways to count -/

/-- How many visits jumped with a text. -/
def jumpsTo (steps : List Step) (visits : List Visit) (key : String) : Nat :=
  visits.countP fun v => v.jumpKey? steps == some key

def iterationsTo (steps : List Step) (visits : List Visit) (key : String) : List Nat :=
  (visits.filter fun v => v.jumpKey? steps == some key).flatMap (Visit.iterations steps)

/-- The counters are the numbers of past jumps, and each jump told the next number. -/
structure Context.Tallies (c : Context) (steps : List Step) (past : List Visit) : Prop where
  jumpCount : ∀ key, (c.jumpCount key).toNat = jumpsTo steps past key
  iterations : ∀ key, iterationsTo steps past key = List.range' 1 (jumpsTo steps past key)

namespace Context.Tallies

variable {c : Context} {past : List Visit} {v : Visit}

/-- Before the first visit counters that are zero tally. -/
theorem of_fresh (h : ∀ key, c.jumpCount key = 0) : c.Tallies steps [] := by
  constructor
  · intro key
    rw [h key]
    rfl
  · intro key
    rfl

/-- A visit that does not jump changes neither side. -/
theorem append_of_stay {c' : Context} (h : c.Tallies steps past)
    (hkey : v.jumpKey? steps = none) (hc : ∀ key, c'.jumpCount key = c.jumpCount key) :
    c'.Tallies steps (past ++ [v]) := by
  have hjumps : ∀ key, jumpsTo steps (past ++ [v]) key = jumpsTo steps past key := by
    intro key
    simp [jumpsTo, hkey]
  constructor
  · intro key
    rw [hc, hjumps, h.jumpCount]
  · intro key
    rw [hjumps, ← h.iterations]
    simp [iterationsTo, hkey]

/-- A visit that jumps adds one for its text on both sides, and tells the new number. -/
theorem append_of_jump {key : String} (h : c.Tallies steps past)
    (hkey : v.jumpKey? steps = some key) (hbound : (c.jumpCount key).toNat + 1 < UInt32.size)
    (htold : v.iterations steps = [((c.countJump key).jumpCount key).toNat]) :
    (c.countJump key).Tallies steps (past ++ [v]) := by
  have hself : ((c.countJump key).jumpCount key).toNat = jumpsTo steps past key + 1 := by
    rw [toNat_jumpCount_countJump hbound, h.jumpCount]
  have hjumps : ∀ other, jumpsTo steps (past ++ [v]) other =
      jumpsTo steps past other + if other = key then 1 else 0 := by
    intro other
    by_cases hother : other = key
    · simp [jumpsTo, hkey, hother]
    · simp [jumpsTo, hkey, hother, Ne.symm hother]
  constructor
  · -- Only the counter of the text that was jumped with goes up.
    intro other
    rw [hjumps]
    by_cases hother : other = key
    · subst hother
      rw [hself, if_pos rfl]
    · rw [jumpCount_countJump_of_ne c hother, h.jumpCount, if_neg hother, Nat.add_zero]
  · -- And only its list gets a further number, which is the next one.
    intro other
    rw [hjumps]
    by_cases hother : other = key
    · subst hother
      have happend : iterationsTo steps (past ++ [v]) other =
          iterationsTo steps past other ++ v.iterations steps := by
        simp [iterationsTo, hkey]
      rw [happend, h.iterations, htold, hself, if_pos rfl, List.range'_1_concat, Nat.add_comm]
    · rw [if_neg hother, Nat.add_zero, ← h.iterations]
      simp [iterationsTo, hkey, Ne.symm hother]

end Context.Tallies

/-- **One visit.** Whatever a step asks for, the counters go on to tally. -/
theorem Visit.tallies_after {v : Visit} {past : List Visit}
    (hblock : v.step.block.LeavesCounts)
    (hcap : ∀ cap, v.cap? steps = some cap → cap < UInt32.size)
    (h : v.before.context.Tallies steps past) :
    (v.after steps).context.Tallies steps (past ++ [v]) := by
  -- The call of the block comes first, and leaves the counters alone.
  have hcalled : v.called.1.context.Tallies steps past := by
    constructor
    · intro key
      rw [v.jumpCount_called hblock, h.jumpCount]
    · exact h.iterations
  rcases v.context_after steps with ⟨hctx, hstay⟩ | ⟨output, key, target, hout, hend, hasked,
    hbelow, hctx, hmotion⟩
  · rw [hctx]
    exact hcalled.append_of_stay (jumpKey?_of_stay hstay) fun _ => rfl
  · obtain ⟨loopTo, ⟨hfound, -⟩, rfl⟩ := jumpAsked?_eq_some_iff.mp hasked
    have hread : loopCap output < UInt32.size := hcap _ (by simp [cap?, hout, hend, hasked])
    have htold := iterations_of_back hout hasked hmotion
    rw [hctx] at htold ⊢
    apply hcalled.append_of_jump (jumpKey?_of_back hout hfound hmotion)
    · omega
    · exact htold

/-! ## Runs and calls -/

def Pipeline.trail (p : Pipeline) : List Call → List Visit
  | [] => []
  | c :: rest => p.visits c.moves c.input c.initial ++ (p.call c).1.trail rest

/-- What is asked of a visit. -/
def Visit.Counted (steps : List Step) (v : Visit) : Prop :=
  v.step.block.LeavesCounts ∧ ∀ cap, v.cap? steps = some cap → cap < UInt32.size

/-- A run keeps the tally, whichever visits came before it. -/
theorem Machine.tallies_run {moves : Nat} {m : Machine} {past : List Visit}
    (hvisits : ∀ v ∈ visits steps moves m, v.Counted steps)
    (h : m.state.context.Tallies steps past) :
    (run steps moves m).state.context.Tallies steps (past ++ visits steps moves m) := by
  -- Each visit is past for the rest of the run.
  induction moves generalizing m past with
  | zero => simpa using h
  | succ moves ih =>
      cases hnext : m.next? steps with
      | none =>
          rw [run_of_finished (finished_iff.mpr hnext), visits_succ_of_none hnext,
            List.append_nil]
          exact h
      | some v =>
          rw [visits_succ_of_some hnext] at hvisits ⊢
          obtain ⟨hv, hrest⟩ := List.forall_mem_cons.mp hvisits
          have hbefore : v.before = m.state := (next?_eq_some hnext).2.1
          have hafter : (m.advance steps).state.context.Tallies steps (past ++ [v]) := by
            rw [advance_of_next? hnext]
            exact Visit.tallies_after hv.1 hv.2 (hbefore ▸ h)
          have hall := ih hrest hafter
          rw [run_succ]
          simpa using hall

/-- Counters live on between calls, so the visits of earlier calls count. -/
theorem Pipeline.tallies_callAll {p : Pipeline} {calls : List Call} {past : List Visit}
    (hvisits : ∀ v ∈ p.trail calls, v.Counted p.steps)
    (h : p.state.context.Tallies p.steps past) :
    (p.callAll calls).state.context.Tallies p.steps (past ++ p.trail calls) := by
  induction calls generalizing p past with
  | nil =>
      rw [trail, List.append_nil]
      exact h
  | cons c rest ih =>
      obtain ⟨hfirst, hrest⟩ := List.forall_mem_append.mp hvisits
      -- The values that a call begins with are laid over the context, and its end is published:
      -- neither is a matter of the counters.
      have hstart : (p.machine c.input c.initial).state.context.Tallies p.steps past :=
        ⟨h.jumpCount, h.iterations⟩
      have hcall : (p.call c).1.state.context.Tallies p.steps
          (past ++ p.visits c.moves c.input c.initial) :=
        Machine.tallies_run hfirst hstart
      rw [trail, ← List.append_assoc]
      exact ih hrest hcall

theorem Pipeline.trail_append (p : Pipeline) (calls more : List Call) :
    p.trail (calls ++ more) = p.trail calls ++ (p.callAll calls).trail more := by
  induction calls generalizing p with
  | nil => rfl
  | cons c rest ih =>
      rw [List.cons_append, trail, trail, ih, List.append_assoc]
      rfl

/-- What a run publishes is what its visits publish. -/
theorem Machine.events_run (moves : Nat) (m : Machine) : (run steps moves m).state.events =
    m.state.events ++ (visits steps moves m).flatMap (Visit.heard steps) := by
  induction moves generalizing m with
  | zero => simp
  | succ moves ih =>
      cases hnext : m.next? steps with
      | none => simp [run_of_finished (finished_iff.mpr hnext), visits_succ_of_none hnext]
      | some v =>
          obtain ⟨hstep, hbefore, -⟩ := next?_eq_some hnext
          have hafter : (m.advance steps).state.events =
              m.state.events ++ v.heard steps := by
            rw [advance_of_next? hnext, ← hbefore]
            exact Visit.events_after hstep
          rw [run_succ, ih, hafter, visits_succ_of_some hnext, List.flatMap_cons,
            List.append_assoc]

/-! ## Requests -/

namespace Visit

variable {v : Visit}

/-- A request for an earlier step is granted exactly below the cap. -/
theorem motion_back_iff {output : Record} {loopTo : Json} {target : Nat}
    (hout : v.outcome = .success output) (hend : asksForEnd output = false)
    (hasks : AsksFor steps v.index output loopTo target) :
    v.motion steps = .back target ↔
      (v.called.1.context.jumpCount loopTo.toText).toNat < loopCap output := by
  have hasked := jumpAsked?_eq_some_iff.mpr ⟨loopTo, hasks, rfl⟩
  rw [motion, taken_of_success hout, State.steer, hend, if_neg Bool.false_ne_true, hasked]
  dsimp only
  unfold State.jump
  split
  · next hlt => exact iff_of_true rfl hlt
  · next hge => exact iff_of_false nofun hge

/-- A visit that is not granted a jump leaves the counters as it found them, and tells no number. -/
theorem unchanged_of_stay (hstep : steps[v.index]? = some v.step)
    (hblock : v.step.block.LeavesCounts) (hstay : ∀ target, v.motion steps ≠ .back target) :
    (∀ key, (v.after steps).context.jumpCount key = v.before.context.jumpCount key) ∧
      v.iterations steps = [] := by
  refine ⟨fun key => ?_, iterations_of_stay hstep hstay⟩
  rcases v.context_after steps with ⟨hctx, -⟩ | ⟨_, _, target, _, _, _, _, _, hmotion⟩
  · rw [hctx, v.jumpCount_called hblock]
  · exact absurd hmotion (hstay target)

/-- A request that designates no earlier step is never granted. -/
theorem stays_of_not_asksFor {output : Record} (hout : v.outcome = .success output)
    (hasks : ∀ loopTo target, ¬AsksFor steps v.index output loopTo target) (target : Nat) :
    v.motion steps ≠ .back target := by
  rcases v.context_after steps with ⟨-, hstay⟩ | ⟨found, _, _, hfound, -, hasked, -⟩
  · exact hstay target
  · obtain rfl := Outcome.success.inj (hout.symm.trans hfound)
    rw [jumpAsked?_eq_none_iff.mpr hasks] at hasked
    cases hasked

/-- A loop tells how far the counter of its target has come. -/
theorem iteration_of_loop (hblock : v.step.block = Blocks.loop) {output : Record}
    (hout : v.outcome = .success output) : ∃ target,
      Table.find? v.inputs "target" = some target ∧
      Table.find? output "iteration" =
        some (.nat (v.before.context.jumpCount target.toText).toNat) := by
  have hresult := (v.answer_of_success hout).1
  rw [answer, hblock] at hresult
  obtain ⟨target, htarget, hresult⟩ := Except.bind_eq_ok hresult
  obtain ⟨again, -, hresult⟩ := Except.bind_eq_ok hresult
  obtain rfl := Except.ok.inj hresult
  refine ⟨target, ?_, ?_⟩
  · unfold Block.required at htarget
    split at htarget
    · next found hfound =>
      obtain rfl := Except.ok.inj htarget
      exact hfound
    · cases htarget
  · unfold Blocks.loopOutput
    cases again <;> rfl

/-- How a visit deals with jumps when `taken` tells how many were made before it: it finds that many
counted, also behind the call of its block; it grants a request for an earlier step exactly below
the cap, and no other; and without a jump it changes no counter. -/
structure Tallied (steps : List Step) (v : Visit) (taken : String → Nat) : Prop where
  found : ∀ key, (v.before.context.jumpCount key).toNat = taken key
  called : ∀ key, (v.called.1.context.jumpCount key).toNat = taken key
  granted_iff : ∀ output loopTo target, v.outcome = .success output →
    asksForEnd output = false → AsksFor steps v.index output loopTo target →
    (v.motion steps = .back target ↔ taken loopTo.toText < loopCap output)
  refused : ∀ output, v.outcome = .success output →
    (∀ loopTo target, ¬AsksFor steps v.index output loopTo target) →
    ∀ target, v.motion steps ≠ .back target
  unchanged : (∀ target, v.motion steps ≠ .back target) →
    v.jumpKey? steps = none ∧ v.iterations steps = [] ∧
    ∀ key, (v.after steps).context.jumpCount key = v.before.context.jumpCount key
  /-- A `loop` tells how many jumps were made to its target. -/
  loop : v.step.block = Blocks.loop → ∀ output, v.outcome = .success output → ∃ target,
    Table.find? v.inputs "target" = some target ∧
    Table.find? output "iteration" = some (.nat (taken target.toText))

/-- Soundness of `Tallied`: where the counters tally, the visit deals with jumps by the number of
those that were made. -/
theorem tallied_of_tallies {past : List Visit} (hstep : steps[v.index]? = some v.step)
    (hblock : v.step.block.LeavesCounts) (h : v.before.context.Tallies steps past) :
    v.Tallied steps (jumpsTo steps past) := by
  have hcalled : ∀ key, (v.called.1.context.jumpCount key).toNat = jumpsTo steps past key := by
    intro key
    rw [v.jumpCount_called hblock, h.jumpCount]
  refine ⟨h.jumpCount, hcalled, ?_, ?_, ?_, ?_⟩
  · intro output loopTo target hout hend hasks
    rw [motion_back_iff hout hend hasks, hcalled]
  · intro output hout hasks
    exact stays_of_not_asksFor hout hasks
  · intro hstay
    obtain ⟨hcounts, hnone⟩ := unchanged_of_stay hstep hblock hstay
    exact ⟨jumpKey?_of_stay hstay, hnone, hcounts⟩
  · intro hloop output hout
    obtain ⟨target, hfound, hiteration⟩ := iteration_of_loop hloop hout
    rw [h.jumpCount] at hiteration
    exact ⟨target, hfound, hiteration⟩

end Visit

/-! ## All calls -/

theorem Pipeline.getElem?_steps_of_mem_trail {p : Pipeline} {calls : List Call} {v : Visit}
    (h : v ∈ p.trail calls) : p.steps[v.index]? = some v.step := by
  induction calls generalizing p with
  | nil => cases h
  | cons c rest ih =>
      rcases List.mem_append.mp h with hfirst | hrest
      · exact Pipeline.getElem?_steps_of_mem_visits hfirst
      · exact ih (p := (p.call c).1) hrest

/-- Every visit of a call that begins with tallying counters finds them so. -/
theorem Pipeline.tallied_of_getElem?_visits {p : Pipeline} {c : Call} {past : List Visit}
    (hvisits : ∀ v ∈ p.visits c.moves c.input c.initial, v.Counted p.steps)
    (h : p.state.context.Tallies p.steps past) {k : Nat} {v : Visit}
    (hv : (p.visits c.moves c.input c.initial)[k]? = some v) :
    v.Tallied p.steps (jumpsTo p.steps (past ++ (p.visits c.moves c.input c.initial).take k)) := by
  obtain ⟨hk, hnext⟩ := Machine.getElem?_visits_eq_some.mp hv
  obtain ⟨hstep, hbefore, -⟩ := Machine.next?_eq_some hnext
  -- Cut off before this visit, the call is a run that ends where the visit finds its state.
  have htake : (p.visits c.moves c.input c.initial).take k =
      Machine.visits p.steps k (p.machine c.input c.initial) :=
    Machine.take_visits hk.le _
  have hreached : v.before.context.Tallies p.steps
      (past ++ Machine.visits p.steps k (p.machine c.input c.initial)) := by
    rw [hbefore]
    apply Machine.tallies_run
    · intro w hw
      rw [← htake] at hw
      exact hvisits w (List.mem_of_mem_take hw)
    · exact ⟨h.jumpCount, h.iterations⟩
  rw [htake]
  exact Visit.tallied_of_tallies hstep (hvisits v (List.mem_of_getElem? hv)).1 hreached

/-- **Counters count jumps.** A pipeline whose counters are all zero, whose blocks leave them alone
and whose caps fit a counter is called any number of times, the last call cut off anywhere. Then the
counter of a text is the number of jumps with that text in all calls, and these jumps told listeners
the numbers from one on, none left out and none twice. Every visit deals with jumps by the number of
those before it. -/
theorem counters_count_jumps (p : Pipeline) (earlier : List Call) (c : Call)
    (hzero : ∀ key, p.state.context.jumpCount key = 0)
    (hblocks : ∀ step ∈ p.steps, step.block.LeavesCounts)
    (hcaps : ∀ v ∈ p.trail (earlier ++ [c]), ∀ cap, v.cap? p.steps = some cap → cap < 2 ^ 32) :
    let before := p.callAll earlier
    let after := (before.call c).1.state
    let visits := before.visits c.moves c.input c.initial
    let past := p.trail earlier
    (∀ key, (after.context.jumpCount key).toNat = jumpsTo p.steps (past ++ visits) key) ∧
    (∀ key, iterationsTo p.steps (past ++ visits) key =
      List.range' 1 (jumpsTo p.steps (past ++ visits) key)) ∧
    after.events = before.state.events ++ [.pipelineStarted nilRun p.steps.length] ++
      visits.flatMap (Visit.heard p.steps) ++
      [.pipelineCompleted nilRun (before.call c).2.success 0] ∧
    ∀ (k : Nat) (v : Visit), visits[k]? = some v →
      v.Tallied p.steps (jumpsTo p.steps (past ++ visits.take k)) := by
  intro before after visits past
  have hsteps : before.steps = p.steps := p.steps_callAll earlier
  have htrail : p.trail (earlier ++ [c]) = past ++ visits := by
    rw [Pipeline.trail_append, Pipeline.trail, Pipeline.trail, List.append_nil]
  have hcounted : ∀ v ∈ past ++ visits, v.Counted p.steps := by
    intro v hv
    rw [← htrail] at hv
    have hstep := Pipeline.getElem?_steps_of_mem_trail hv
    exact ⟨hblocks v.step (List.mem_of_getElem? hstep), hcaps v hv⟩
  obtain ⟨hpast, hvisits⟩ := List.forall_mem_append.mp hcounted
  have hbegin : before.state.context.Tallies p.steps past :=
    Pipeline.tallies_callAll hpast (.of_fresh hzero)
  rw [← hsteps] at hvisits hbegin ⊢
  have hend : after.context.Tallies before.steps (past ++ visits) :=
    Machine.tallies_run hvisits ⟨hbegin.jumpCount, hbegin.iterations⟩
  refine ⟨hend.jumpCount, hend.iterations, ?_, ?_⟩
  · show (Machine.run before.steps c.moves (before.machine c.input c.initial)).state.events ++ _ = _
    rw [Machine.events_run]
    rfl
  · intro k v hv
    exact Pipeline.tallied_of_getElem?_visits hvisits hbegin hv

/-- Called once for two rounds and then for another one, it counts three jumps to the pause. The
last `loop` tells that two were made before it. -/
theorem pauseAndLoop_counts_jumps :
    let before := pauseAndLoop.callAll [⟨4, [], []⟩]
    (∀ key, pauseAndLoop.state.context.jumpCount key = 0) ∧
    (∀ step ∈ pauseAndLoop.steps, step.block.LeavesCounts) ∧
    ((before.call ⟨3, [], []⟩).1.state.context.jumpCount "pause").toNat = 3 ∧
    iterationsTo pauseAndLoop.steps
      (pauseAndLoop.trail [⟨4, [], []⟩] ++ before.visits 3 [] []) "pause" = [1, 2, 3] ∧
    ∃ v output, (before.visits 3 [] [])[1]? = some v ∧ v.outcome = .success output ∧
      Table.find? output "iteration" = some (.nat 2) := by
  intro before
  have hblocks : ∀ step ∈ pauseAndLoop.steps, step.block.LeavesCounts := by
    intro step hstep
    simp only [pauseAndLoop, List.mem_cons, List.not_mem_nil, or_false] at hstep
    rcases hstep with rfl | rfl
    · exact Block.LeavesContext.leavesCounts Block.leavesContext_reading
    · exact Block.LeavesContext.leavesCounts Block.leavesContext_reading
  have hcaps : ∀ v ∈ pauseAndLoop.trail ([⟨4, [], []⟩] ++ [⟨3, [], []⟩]), ∀ cap,
      v.cap? pauseAndLoop.steps = some cap → cap < 2 ^ 32 := by
    have hall : (pauseAndLoop.trail ([⟨4, [], []⟩] ++ [⟨3, [], []⟩])).all
        (fun v => (v.cap? pauseAndLoop.steps).all (· < 2 ^ 32)) = true := by
      decide +kernel
    intro v hv cap hcap
    have hv := List.all_eq_true.mp hall v hv
    rw [hcap] at hv
    simpa using hv
  obtain ⟨hcounts, htold, -, hvisits⟩ := counters_count_jumps pauseAndLoop [⟨4, [], []⟩]
    ⟨3, [], []⟩ (fun _ => rfl) hblocks hcaps
  have hjumps : jumpsTo pauseAndLoop.steps
      (pauseAndLoop.trail [⟨4, [], []⟩] ++ before.visits 3 [] []) "pause" = 3 := by
    decide +kernel
  refine ⟨fun _ => rfl, hblocks, (hcounts "pause").trans hjumps, ?_, ?_⟩
  · rw [htold, hjumps]
    rfl
  · refine ⟨_, _, rfl, rfl, ?_⟩
    obtain ⟨target, htarget, hiteration⟩ := (hvisits 1 _ rfl).loop rfl _ rfl
    obtain rfl := Option.some.inj (htarget.symm.trans rfl : some target = some (.str "pause"))
    have htwo : jumpsTo pauseAndLoop.steps
        (pauseAndLoop.trail [⟨4, [], []⟩] ++ (before.visits 3 [] []).take 1) "pause" = 2 := by
      decide +kernel
    rw [← htwo]
    exact hiteration

end StepPipeline
