import Mathlib.Data.List.Nodup
import StepPipeline.Proofs.Run.Jumps

/-!
# How often a capped loop runs its body

A loop is a step that asks for a jump back a number of times, always with one text and one cap, in
a pipeline whose other steps ask for nothing. A call then goes through the list in stretches: up to
the last step of the loop, through its body once for each jump that is granted, and on to the end.
`Machine.Leads` lists the positions that a machine takes on its way to another one; stretches are
put together by `Leads.trans`.

The proof follows that picture. `exists_walk` goes through steps that ask for nothing, by induction
on their number; `exists_pass` goes once to the end of the loop; `exists_passes` is the induction on
the jumps that are left, whichever of the requests and the cap gives out first. Main statement:
`capped_loop_runs`.
-/

namespace StepPipeline

variable {steps : List Step}

/-! ## Stretches of a run -/

namespace Machine

/-- The machine goes on to `m'`, and takes the steps at these positions on its way. -/
structure Leads (steps : List Step) (m m' : Machine) (positions : List Nat) : Prop where
  run : Machine.run steps positions.length m = m'
  visits : (Machine.visits steps positions.length m).map Visit.index = positions

variable {m m' m'' : Machine} {front back : List Nat}

theorem Leads.refl (m : Machine) : Leads steps m m [] := ⟨rfl, rfl⟩

/-- One visit is a stretch of one position. -/
theorem Leads.single {v : Visit} (h : m.next? steps = some v) :
    Leads steps m (m.advance steps) [v.index] := by
  constructor
  · rw [List.length_singleton, run_succ, run_zero]
  · rw [List.length_singleton, visits_succ_of_some h, visits_zero]
    rfl

/-- Stretches are put together at the machine where the first one ends. -/
theorem Leads.trans (hfront : Leads steps m m' front) (hback : Leads steps m' m'' back) :
    Leads steps m m'' (front ++ back) := by
  constructor
  · rw [List.length_append, run_add, hfront.run, hback.run]
  · rw [List.length_append, visits_add, hfront.run, List.map_append, hfront.visits, hback.visits]

end Machine

/-! ## Steps that ask, and steps that do not -/

/-- A loop: the step at `last` asks for a jump to `first`, a number of times. -/
structure CappedLoop where
  first : Nat
  last : Nat
  key : String
  cap : Nat
  requests : Nat

namespace Visit

/-- The step succeeds and asks for nothing. -/
def IsQuiet (v : Visit) : Prop :=
  ∃ output, v.outcome = .success output ∧ asksForEnd output = false ∧
    Table.find? output "_loopTo" = none

/-- The step succeeds and asks for the jump of the loop. -/
def Repeats (steps : List Step) (l : CappedLoop) (v : Visit) : Prop :=
  ∃ output loopTo, v.outcome = .success output ∧ asksForEnd output = false ∧
    AsksFor steps v.index output loopTo l.first ∧ loopTo.toText = l.key ∧ loopCap output = l.cap

/-- What the step does that is taken after `calls` rounds: the last one of the loop asks for the
jump until it has asked often enough, and all others are quiet. -/
structure Follows (steps : List Step) (l : CappedLoop) (calls : Nat) (v : Visit) : Prop where
  asks : v.index = l.last → calls < l.requests → v.Repeats steps l
  rests : v.index = l.last → l.requests ≤ calls → v.IsQuiet
  others : v.index ≠ l.last → v.IsQuiet

variable {v : Visit} {l : CappedLoop}

/-- In a loop every step succeeds, so every visit calls its block. -/
theorem Follows.success {calls : Nat} (h : v.Follows steps l calls) :
    ∃ output, v.outcome = .success output := by
  have hquiet : v.IsQuiet → ∃ output, v.outcome = .success output :=
    fun ⟨output, hout, _⟩ => ⟨output, hout⟩
  by_cases hlast : v.index = l.last
  · by_cases hasks : calls < l.requests
    · obtain ⟨output, _, hout, -⟩ := h.asks hlast hasks
      exact ⟨output, hout⟩
    · exact hquiet (h.rests hlast (Nat.le_of_not_lt hasks))
  · exact hquiet (h.others hlast)

/-- A quiet step moves the cursor on by one and leaves all counters. -/
theorem IsQuiet.goes_onward (h : v.IsQuiet) (hblock : v.step.block.LeavesCounts)
    (steps : List Step) :
    v.motion steps = .onward ∧
      ∀ key, (v.after steps).context.jumpCount key = v.before.context.jumpCount key := by
  obtain ⟨output, hout, hend, hnone⟩ := h
  have hasked : jumpAsked? steps v.index output = none := by
    simp [jumpAsked?, hnone]
  constructor
  · rw [motion, taken_of_success hout, State.steer, hend, hasked]
    rfl
  · intro key
    rw [← v.jumpCount_called hblock key, after, taken_of_success hout, State.steer, hend, hasked]
    rfl

/-- Below the cap the jump is made and counted. -/
theorem Repeats.goes_back (h : v.Repeats steps l) (hblock : v.step.block.LeavesCounts)
    (hcap : l.cap < UInt32.size) (hlt : (v.before.context.jumpCount l.key).toNat < l.cap) :
    v.motion steps = .back l.first ∧
      ((v.after steps).context.jumpCount l.key).toNat =
        (v.before.context.jumpCount l.key).toNat + 1 := by
  obtain ⟨output, loopTo, hout, hend, hasks, hkey, hread⟩ := h
  have hcalled := v.jumpCount_called hblock l.key
  have hback : v.motion steps = .back l.first := by
    apply (motion_back_iff hout hend hasks).mpr
    rw [hkey, hcalled, hread]
    exact hlt
  refine ⟨hback, ?_⟩
  -- The jump that was made is the one that was asked for, so its counter is that of the loop.
  rcases v.context_after steps with ⟨-, hstay⟩ | ⟨found, key, _, hfound, -, hasked, -, hctx, -⟩
  · exact absurd hback (hstay l.first)
  · obtain rfl := Outcome.success.inj (hout.symm.trans hfound)
    have hsame := hasked.symm.trans (jumpAsked?_eq_some_iff.mpr ⟨loopTo, hasks, hkey⟩)
    obtain ⟨rfl, rfl⟩ := Prod.mk.inj (Option.some.inj hsame)
    rw [hctx, Context.toNat_jumpCount_countJump, hcalled]
    rw [hcalled]
    omega

/-- At the cap the step is passed. -/
theorem Repeats.goes_onward (h : v.Repeats steps l) (hblock : v.step.block.LeavesCounts)
    (hge : l.cap ≤ (v.before.context.jumpCount l.key).toNat) :
    v.motion steps = .onward ∧
      (v.after steps).context.jumpCount l.key = v.before.context.jumpCount l.key := by
  obtain ⟨output, loopTo, hout, hend, hasks, hkey, hread⟩ := h
  have hasked := jumpAsked?_eq_some_iff.mpr ⟨loopTo, hasks, hkey⟩
  have hcalled := v.jumpCount_called hblock l.key
  have hnot : ¬(v.called.1.context.jumpCount l.key).toNat < loopCap output := by
    rw [hcalled, hread]
    omega
  have htaken : v.taken steps =
      (((v.called.1.store v.step output).succeed v.step.id).emit
        (.loopLimitReached v.step.id l.key (loopCap output)), .onward) := by
    rw [taken_of_success hout, State.steer, hend, if_neg Bool.false_ne_true, hasked]
    exact if_neg hnot
  constructor
  · rw [motion, htaken]
  · rw [after, htaken, ← hcalled]
    rfl

end Visit

/-! ## Stretches of a loop -/

namespace Machine

variable {m m' : Machine} {l : CappedLoop} {calls : Nat} {positions : List Nat}

/-- From here on every step does what the loop has it do; its last step was taken `calls` times. -/
def Follows (steps : List Step) (l : CappedLoop) (calls : Nat) (m : Machine) : Prop :=
  ∀ moves v, (run steps moves m).next? steps = some v → v.step.block.LeavesCounts ∧
    v.Follows steps l (calls + ((visits steps moves m).map Visit.index).count l.last)

def count (l : CappedLoop) (m : Machine) : Nat := (m.state.context.jumpCount l.key).toNat

/-- A loop is followed from any later machine too, with the rounds that were made on the way. -/
theorem Follows.of_leads (h : Follows steps l calls m) (hleads : Leads steps m m' positions) :
    Follows steps l (calls + positions.count l.last) m' := by
  intro moves v hnext
  rw [← hleads.run, ← run_add] at hnext
  obtain ⟨hblock, hfollows⟩ := h _ v hnext
  rw [visits_add, hleads.run, List.map_append, List.count_append, hleads.visits,
    ← Nat.add_assoc] at hfollows
  exact ⟨hblock, hfollows⟩

/-- Inside the list there is a step to take. -/
theorem exists_next? (h : m.cursor < steps.length) :
    ∃ v, m.next? steps = some v ∧ v.before = m.state ∧ v.index = m.cursor := by
  refine ⟨⟨m.state, m.cursor, steps[m.cursor]⟩, ?_, rfl, rfl⟩
  simp [next?, List.getElem?_eq_getElem h]

/-- Steps that are not the last one of the loop are walked through one by one. -/
theorem exists_walk (distance : Nat) (hfollows : Follows steps l calls m)
    (hlength : m.cursor + distance ≤ steps.length)
    (haway : l.last < m.cursor ∨ m.cursor + distance ≤ l.last) :
    ∃ m', Leads steps m m' (List.range' m.cursor distance) ∧ m'.cursor = m.cursor + distance ∧
      count l m' = count l m := by
  -- Induction on the number of steps; the counter of the loop is not touched by any of them.
  induction distance generalizing m calls with
  | zero => exact ⟨m, .refl m, rfl, rfl⟩
  | succ distance ih =>
      obtain ⟨v, hnext, hbefore, hindex⟩ := exists_next? (by omega : m.cursor < steps.length)
      obtain ⟨hblock, hv⟩ := hfollows 0 v hnext
      have hquiet : v.IsQuiet := hv.others (by omega)
      obtain ⟨honward, hcounts⟩ := hquiet.goes_onward hblock steps
      have hleads := Leads.single hnext
      have hcursor : (m.advance steps).cursor = m.cursor + 1 := by
        rw [advance_of_next? hnext, honward, hindex]
        rfl
      have hcount : count l (m.advance steps) = count l m := by
        rw [advance_of_next? hnext, count, count, ← hbefore]
        exact congrArg UInt32.toNat (hcounts l.key)
      obtain ⟨m', hwalk, hend, hsame⟩ := ih (hfollows.of_leads hleads) (by omega) (by omega)
      refine ⟨m', ?_, by omega, hsame.trans hcount⟩
      rw [List.range'_succ, ← hindex]
      rw [hcursor, ← hindex] at hwalk
      exact hleads.trans hwalk

/-- From anywhere up to the end of the loop the machine comes to that end once. There it goes back
while there are requests and jumps left, and on otherwise. -/
theorem exists_pass (hfollows : Follows steps l calls m) (hcursor : m.cursor ≤ l.last)
    (hlast : l.last < steps.length) (hcap : l.cap < UInt32.size) :
    ∃ m', Leads steps m m' (List.range' m.cursor (l.last + 1 - m.cursor)) ∧
      if calls < l.requests ∧ count l m < l.cap
      then m'.cursor = l.first ∧ count l m' = count l m + 1
      else m'.cursor = l.last + 1 ∧ count l m' = count l m := by
  obtain ⟨m₁, hwalk, hend, hsame⟩ :=
    exists_walk (l.last - m.cursor) hfollows (by omega) (by omega)
  -- On the walk to it the last step of the loop is not taken.
  have hnone : (List.range' m.cursor (l.last - m.cursor)).count l.last = 0 := by
    apply List.count_eq_zero.mpr
    intro hmem
    have := List.mem_range'_1.mp hmem
    omega
  have hthere := hfollows.of_leads hwalk
  rw [hnone, Nat.add_zero] at hthere
  obtain ⟨v, hnext, hbefore, hindex⟩ := exists_next? (by omega : m₁.cursor < steps.length)
  obtain ⟨hblock, hv⟩ := hthere 0 v hnext
  rw [visits_zero, List.map_nil, List.count_nil, Nat.add_zero] at hv
  have hlastIndex : v.index = l.last := by omega
  have hcount : (v.before.context.jumpCount l.key).toNat = count l m := by
    rw [hbefore, ← hsame]
    rfl
  refine ⟨m₁.advance steps, ?_, ?_⟩
  · have hpositions : List.range' m.cursor (l.last + 1 - m.cursor) =
        List.range' m.cursor (l.last - m.cursor) ++ [v.index] := by
      rw [hlastIndex, show l.last + 1 - m.cursor = l.last - m.cursor + 1 by omega,
        List.range'_1_concat, Nat.add_sub_cancel' hcursor]
    rw [hpositions]
    exact hwalk.trans (.single hnext)
  · rw [advance_of_next? hnext]
    split
    · next hleft =>
      obtain ⟨hmotion, hafter⟩ := (hv.asks hlastIndex hleft.1).goes_back hblock hcap (by omega)
      rw [hmotion]
      exact ⟨rfl, by rw [count, hafter, hcount]⟩
    · next hleft =>
      -- Either the step asks no more, or it asks in vain.
      have hstays : v.motion steps = .onward ∧ (v.after steps).context.jumpCount l.key =
          v.before.context.jumpCount l.key := by
        by_cases hasks : calls < l.requests
        · apply (hv.asks hlastIndex hasks).goes_onward hblock
          omega
        · obtain ⟨honward, hcounts⟩ :=
            (hv.rests hlastIndex (by omega)).goes_onward hblock steps
          exact ⟨honward, hcounts l.key⟩
      rw [hstays.1]
      refine ⟨by rw [← hlastIndex]; rfl, ?_⟩
      rw [count, hstays.2, hcount]

/-- The machine leaves the loop when it has gone through the body once for each jump left. -/
theorem exists_passes (jumps : Nat) (hfollows : Follows steps l calls m)
    (hcursor : m.cursor ≤ l.last) (hbody : l.first < l.last) (hlast : l.last < steps.length)
    (hcap : l.cap < UInt32.size)
    (hjumps : jumps = min (l.requests - calls) (l.cap - count l m)) :
    ∃ m', Leads steps m m' (List.range' m.cursor (l.last + 1 - m.cursor) ++
        (List.replicate jumps (List.range' l.first (l.last + 1 - l.first))).flatten) ∧
      m'.cursor = l.last + 1 ∧ count l m' = count l m + jumps := by
  obtain ⟨m₁, hleads, hpass⟩ := exists_pass hfollows hcursor hlast hcap
  -- Induction on the jumps that are left. The first pass is taken before, as its outcome tells
  -- whether there is another.
  induction jumps generalizing m m₁ calls with
  | zero =>
      rw [if_neg (by omega)] at hpass
      exact ⟨m₁, by simpa using hleads, hpass.1, hpass.2⟩
  | succ jumps ih =>
      rw [if_pos (by omega)] at hpass
      have honce : (List.range' m.cursor (l.last + 1 - m.cursor)).count l.last = 1 := by
        apply List.count_eq_one_of_mem List.nodup_range'
        apply List.mem_range'_1.mpr
        omega
      have hthere := hfollows.of_leads hleads
      rw [honce] at hthere
      have hback : m₁.cursor ≤ l.last := by omega
      obtain ⟨m₂, hnext, hagain⟩ := exists_pass hthere hback hlast hcap
      obtain ⟨m', hrest, hend, hcount⟩ := ih hthere hback (by omega) m₂ hnext hagain
      refine ⟨m', ?_, hend, by omega⟩
      rw [hpass.1] at hrest
      rw [List.replicate_succ, List.flatten_cons]
      exact hleads.trans hrest

end Machine

/-! ## Calls of blocks -/

/-- A step that succeeds has called its block once. -/
theorem Visit.callsOf_after {v : Visit} {output : Record} (hout : v.outcome = .success output)
    (i : Nat) : (v.after steps).callsOf i = v.before.callsOf i + if i = v.index then 1 else 0 := by
  have hcomplete : v.step.block.inputs.missing v.inputs = [] := by
    by_contra hmissing
    rw [(v.called_of_missing hmissing).1] at hout
    cases hout
  rw [State.callsOf, calls_after, v.calls_called_of_complete hcomplete]
  exact State.callsOf_countCall v.before v.index i

/-- Blocks are called as often as their positions are taken. -/
theorem Machine.callsOf_run {moves : Nat} {m : Machine}
    (h : ∀ v ∈ visits steps moves m, ∃ output, v.outcome = .success output) (i : Nat) :
    (run steps moves m).state.callsOf i =
      m.state.callsOf i + ((visits steps moves m).map Visit.index).count i := by
  induction moves generalizing m with
  | zero => simp
  | succ moves ih =>
      cases hnext : m.next? steps with
      | none => simp [run_of_finished (finished_iff.mpr hnext), visits_succ_of_none hnext]
      | some v =>
          rw [visits_succ_of_some hnext] at h ⊢
          obtain ⟨⟨output, hout⟩, hrest⟩ := List.forall_mem_cons.mp h
          have hbefore : v.before = m.state := (next?_eq_some hnext).2.1
          rw [run_succ, ih hrest, advance_of_next? hnext, Visit.callsOf_after hout, hbefore,
            List.map_cons, List.count_cons, Nat.add_assoc]
          by_cases hi : i = v.index
          · simp [hi, Nat.add_comm]
          · simp [hi, Ne.symm hi]

/-! ## The call -/

namespace CappedLoop

variable (l : CappedLoop)

/-- The positions that a call takes in a list of `length` steps: to the end of the loop, through the
body once for each jump, and to the end of the list. -/
def positions (length jumps : Nat) : List Nat :=
  List.range (l.last + 1) ++
    (List.replicate jumps (List.range' l.first (l.last + 1 - l.first))).flatten ++
    List.range' (l.last + 1) (length - (l.last + 1))

/-- How often the block of a step is called. -/
def rounds (jumps index : Nat) : Nat := if l.first ≤ index ∧ index ≤ l.last then 1 + jumps else 1

variable {l}

/-- A position in the body is taken once, and once more for each jump; any other is taken once. -/
theorem count_positions {length : Nat} (hbody : l.first < l.last) (hlast : l.last < length)
    (jumps : Nat) {index : Nat} (hindex : index < length) :
    (l.positions length jumps).count index = l.rounds jumps index := by
  have hrange : ∀ start distance, (List.range' start distance).count index =
      if start ≤ index ∧ index < start + distance then 1 else 0 := by
    intro start distance
    rw [List.Nodup.count (List.nodup_range' 1)]
    simp only [List.mem_range'_1]
  rw [positions, List.range_eq_range', List.count_append, List.count_append, List.count_flatten,
    List.map_replicate, List.sum_replicate_nat, hrange, hrange, hrange, rounds]
  -- A position lies before the body, in it, or behind it.
  by_cases hbefore : index < l.first
  · rw [if_pos (by omega), if_neg (by omega), if_neg (by omega), if_neg (by omega)]
    omega
  · by_cases hbody : index ≤ l.last
    · rw [if_pos (by omega), if_pos (by omega), if_neg (by omega), if_pos (by omega)]
      omega
    · rw [if_neg (by omega), if_neg (by omega), if_pos (by omega), if_neg (by omega)]
      omega

/-- Each jump takes the body again. -/
theorem length_positions {length : Nat} (hlast : l.last < length) (jumps : Nat) :
    (l.positions length jumps).length = length + jumps * (l.last + 1 - l.first) := by
  simp only [positions, List.length_append, List.length_range, List.length_flatten,
    List.map_replicate, List.length_range', List.sum_replicate_nat]
  omega

/-- Needed for runs without a bound of their own: the engine's budget is enough for any number of
jumps that a counter can hold. -/
theorem length_positions_le {length jumps : Nat} (hlast : l.last < length)
    (hjumps : jumps < UInt32.size) :
    (l.positions length jumps).length ≤ Pipeline.stepBudget length := by
  rw [length_positions hlast]
  have hbody : jumps * (l.last + 1 - l.first) ≤ (UInt32.size - 1) * length :=
    Nat.mul_le_mul (by omega) (by omega)
  have hroom : (UInt32.size - 1) * length ≤ length * (2 * length * (UInt32.size - 1)) := by
    rw [Nat.mul_comm]
    apply Nat.mul_le_mul_left
    exact Nat.le_mul_of_pos_left _ (by omega)
  rw [Pipeline.stepBudget, Nat.mul_add, Nat.mul_one]
  omega

end CappedLoop

/-- A machine that begins a loop goes through all its positions, and is then done. -/
theorem Machine.exists_loop {m : Machine} {l : CappedLoop} (hfollows : m.Follows steps l 0)
    (hcursor : m.cursor = 0) (hbody : l.first < l.last) (hlast : l.last < steps.length)
    (hcap : l.cap < UInt32.size) (jumps : Nat)
    (hjumps : jumps = min l.requests (l.cap - m.count l)) :
    ∃ m', Leads steps m m' (l.positions steps.length jumps) ∧ m'.finished steps = true ∧
      m'.count l = m.count l + jumps := by
  obtain ⟨m₁, hpasses, hend, hcount⟩ :=
    exists_passes jumps hfollows (by omega) hbody hlast hcap hjumps
  obtain ⟨m', hwalk, hover, hsame⟩ :=
    exists_walk (l := l) (steps.length - (l.last + 1)) (hfollows.of_leads hpasses) (by omega)
      (by omega)
  refine ⟨m', ?_, ?_, by omega⟩
  · rw [hend] at hwalk
    rw [hcursor, ← List.range_eq_range'] at hpasses
    exact hpasses.trans hwalk
  · simp only [finished, decide_eq_true_eq]
    omega

/-- A machine follows a loop if all visits of its calls do. -/
theorem Pipeline.follows_machine {p : Pipeline} {input initial : Record} {l : CappedLoop}
    (hblocks : ∀ step ∈ p.steps, step.block.LeavesCounts)
    (hfollows : ∀ (moves k : Nat) (v : Visit), (p.visits moves input initial)[k]? = some v →
      v.Follows p.steps l
        (((p.visits moves input initial).take k).countP fun w => w.index == l.last)) :
    (p.machine input initial).Follows p.steps l 0 := by
  intro k v hnext
  have hv : (p.visits (k + 1) input initial)[k]? = some v :=
    Machine.getElem?_visits_eq_some.mpr ⟨Nat.lt_succ_self k, hnext⟩
  have htake : (p.visits (k + 1) input initial).take k =
      Machine.visits p.steps k (p.machine input initial) :=
    Machine.take_visits (Nat.le_succ k) _
  have hstep := hfollows (k + 1) k v hv
  rw [htake] at hstep
  refine ⟨hblocks v.step (List.mem_of_getElem? (Machine.next?_eq_some hnext).1), ?_⟩
  rw [Nat.zero_add, List.count, List.countP_map]
  exact hstep

/-- What a call that leads to the end of the list leaves behind, if it is given enough moves. -/
theorem Pipeline.runFor_of_leads {p : Pipeline} {input initial : Record} {m' : Machine}
    {positions : List Nat} (hleads : (p.machine input initial).Leads p.steps m' positions)
    (hover : m'.finished p.steps = true) {moves : Nat} (hmoves : positions.length ≤ moves)
    (hsuccess : ∀ v ∈ p.visits moves input initial, ∃ output, v.outcome = .success output) :
    (Machine.run p.steps moves (p.machine input initial)).finished p.steps = true ∧
    (p.visits moves input initial).map Visit.index = positions ∧
    (p.runFor moves input initial).1.state.context = m'.state.context ∧
    ∀ index, (p.runFor moves input initial).1.state.callsOf index =
      p.state.callsOf index + positions.count index := by
  have hreached : (Machine.run p.steps positions.length (p.machine input initial)).finished
      p.steps = true := by
    rw [hleads.run]
    exact hover
  have hrun : Machine.run p.steps moves (p.machine input initial) = m' := by
    rw [Machine.run_eq_of_finished hmoves hreached, hleads.run]
  have hvisits : (p.visits moves input initial).map Visit.index = positions := by
    show (Machine.visits p.steps moves (p.machine input initial)).map Visit.index = _
    rw [Machine.visits_eq_of_finished hmoves hreached]
    exact hleads.visits
  refine ⟨hrun ▸ hover, hvisits, ?_, ?_⟩
  · show (Machine.run p.steps moves (p.machine input initial)).state.context = _
    rw [hrun]
  · intro index
    rw [← hvisits]
    exact Machine.callsOf_run hsuccess index

/-- **How often a capped loop runs.** In a call the step at `last` asks a number of times for a jump
to an earlier step, always with one text and one cap that fits a counter, and then no more; all
other steps succeed and ask for nothing, and no block touches a counter. Then the call comes to its
end with exactly the positions of the loop, one round more for each jump that is asked for and that
the counter leaves: the blocks of the body are called once and once more for each jump, all others
once, and the counter ends with so many jumps more. -/
theorem capped_loop_runs (p : Pipeline) (input initial : Record) (l : CappedLoop)
    (hbody : l.first < l.last) (hlast : l.last < p.steps.length) (hcap : l.cap < 2 ^ 32)
    (hblocks : ∀ step ∈ p.steps, step.block.LeavesCounts)
    (hfollows : ∀ (moves k : Nat) (v : Visit), (p.visits moves input initial)[k]? = some v →
      v.Follows p.steps l
        (((p.visits moves input initial).take k).countP fun w => w.index == l.last)) :
    let start := (p.state.context.jumpCount l.key).toNat
    let jumps := min l.requests (l.cap - start)
    let moves := Pipeline.stepBudget p.steps.length
    let done := (p.run input initial).1.state
    (Machine.run p.steps moves (p.machine input initial)).finished p.steps = true ∧
    (p.visits moves input initial).map Visit.index = l.positions p.steps.length jumps ∧
    (∀ index < p.steps.length,
      done.callsOf index = p.state.callsOf index + l.rounds jumps index) ∧
    (done.context.jumpCount l.key).toNat = start + jumps := by
  intro start jumps moves done
  obtain ⟨m', hleads, hover, hcount⟩ :=
    Machine.exists_loop (Pipeline.follows_machine hblocks hfollows) rfl hbody hlast hcap jumps rfl
  have hbudget : (l.positions p.steps.length jumps).length ≤ moves := by
    apply l.length_positions_le hlast
    exact (Nat.min_le_right ..).trans_lt ((Nat.sub_le ..).trans_lt hcap)
  have hsuccess : ∀ v ∈ p.visits moves input initial, ∃ output, v.outcome = .success output := by
    intro v hv
    obtain ⟨k, hk⟩ := List.mem_iff_getElem?.mp hv
    exact (hfollows moves k v hk).success
  obtain ⟨hfinished, hvisits, hcontext, hcalls⟩ :=
    Pipeline.runFor_of_leads hleads hover hbudget hsuccess
  have hdone : done = (p.runFor moves input initial).1.state := by
    show (p.run input initial).1.state = _
    rw [Pipeline.run]
  refine ⟨hfinished, hvisits, ?_, ?_⟩
  · intro index hindex
    rw [hdone, hcalls, l.count_positions hbody hlast jumps hindex]
  · rw [hdone, hcontext]
    exact hcount

def pauseTwiceLoop : CappedLoop := { first := 1, last := 2, key := "1", cap := 1, requests := 5 }

theorem visits_pauseTwiceAndLoop (moves : Nat) :
    pauseTwiceAndLoop.visits moves [] [] = (pauseTwiceAndLoop.visits 5 [] []).take moves := by
  rcases Nat.le_total moves 5 with hle | hge
  · exact (Machine.take_visits hle _).symm
  · have hall : (pauseTwiceAndLoop.visits 5 [] []).length ≤ moves := hge
    have hover : (Machine.run pauseTwiceAndLoop.steps 5
        (pauseTwiceAndLoop.machine [] [])).finished pauseTwiceAndLoop.steps = true := by
      decide +kernel
    rw [List.take_of_length_le hall]
    exact Machine.visits_eq_of_finished hge hover

/-- Whatever the state, the pauses ask for nothing and the last step asks for the jump. -/
theorem follows_pauseTwiceLoop (moves k : Nat) (v : Visit)
    (hv : (pauseTwiceAndLoop.visits moves [] [])[k]? = some v) :
    v.Follows pauseTwiceAndLoop.steps pauseTwiceLoop
      (((pauseTwiceAndLoop.visits moves [] []).take k).countP fun w => w.index == 2) := by
  have hstep := Pipeline.getElem?_steps_of_mem_visits (List.mem_of_getElem? hv)
  -- It never comes to a sixth request.
  have hfew :
      ((pauseTwiceAndLoop.visits moves [] []).take k).countP (fun w => w.index == 2) < 5 := by
    have htwo : (pauseTwiceAndLoop.visits 5 [] []).countP (fun w => w.index == 2) = 2 := rfl
    have hsub : ((pauseTwiceAndLoop.visits moves [] []).take k).Sublist
        (pauseTwiceAndLoop.visits 5 [] []) := by
      rw [visits_pauseTwiceAndLoop]
      exact (List.take_sublist k _).trans (List.take_sublist moves _)
    have hle := hsub.countP_le (p := fun w => w.index == 2)
    omega
  have htarget : Designates pauseTwiceAndLoop.steps (.nat 1) 1 := .position (by decide)
  obtain ⟨before, index, step⟩ := v
  match index with
  | 0 | 1 =>
      obtain rfl := Option.some.inj hstep
      exact ⟨nofun, nofun, fun _ => ⟨_, rfl, rfl, rfl⟩⟩
  | 2 =>
      obtain rfl := Option.some.inj hstep
      have htext : (Json.nat 1).toText = "1" := by decide +kernel
      refine ⟨fun _ _ => ⟨_, _, rfl, rfl, ⟨rfl, htarget, Nat.lt_succ_self 1⟩, htext, rfl⟩, ?_, ?_⟩
      · intro _ hmany
        exact absurd hfew (Nat.not_lt.mpr hmany)
      · exact fun hne => absurd rfl hne
  | index + 3 => cases hstep

/-- The first step is called once, and the two of the loop twice. -/
theorem pauseTwiceAndLoop_runs :
    (∀ step ∈ pauseTwiceAndLoop.steps, step.block.LeavesCounts) ∧
    (pauseTwiceAndLoop.run [] []).1.state.callsOf 0 = 1 ∧
    (pauseTwiceAndLoop.run [] []).1.state.callsOf 1 = 2 ∧
    (pauseTwiceAndLoop.run [] []).1.state.callsOf 2 = 2 ∧
    ((pauseTwiceAndLoop.run [] []).1.state.context.jumpCount "1").toNat = 1 := by
  have hblocks : ∀ step ∈ pauseTwiceAndLoop.steps, step.block.LeavesCounts := by
    intro step hstep
    simp only [pauseTwiceAndLoop, List.mem_cons, List.not_mem_nil, or_false] at hstep
    rcases hstep with rfl | rfl | rfl
    all_goals exact Block.LeavesContext.leavesCounts Block.leavesContext_reading
  obtain ⟨-, -, hcalls, hcount⟩ := capped_loop_runs pauseTwiceAndLoop [] [] pauseTwiceLoop
    (by decide) (by decide) (by decide) hblocks follows_pauseTwiceLoop
  exact ⟨hblocks, hcalls 0 (by decide), hcalls 1 (by decide), hcalls 2 (by decide), hcount⟩

end StepPipeline
