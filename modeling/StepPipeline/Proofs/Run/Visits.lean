import StepPipeline.Proofs.Run.Taking

/-!
# The visits of a run

A run is the list of its visits. `Machine.visits` lists them beside `Machine.run`, and
`getElem?_visits` ties the two: the visit at position `k` is the one that the machine is about to
make after `k` moves. So a law about every step of a run needs one case, an arbitrary reached
machine, and a law about the end of a run is an induction over the moves (`run_invariant`).

`Pipeline.visits` are those of one call of a pipeline. `Pipeline.callAll` makes calls one after the
other, and `Pipeline.history` is what they report.
-/

namespace StepPipeline

namespace Machine

variable (steps : List Step)

/-- The visit that is made next; none once the run is over. -/
def next? (m : Machine) : Option Visit :=
  (steps[m.cursor]?).map fun step => ⟨m.state, m.cursor, step⟩

/-- The visits of at most the given number of moves. -/
def visits : Nat → Machine → List Visit
  | 0, _ => []
  | moves + 1, m =>
    match m.next? steps with
    | some v => v :: visits moves (m.advance steps)
    | none => []

variable {steps}

/-! ## One move -/

/-- The next visit is the one of the step at the cursor, in the state of the machine. -/
theorem next?_eq_some {m : Machine} {v : Visit} (h : m.next? steps = some v) :
    steps[v.index]? = some v.step ∧ v.before = m.state ∧ v.index = m.cursor := by
  obtain ⟨step, hstep, rfl⟩ := Option.map_eq_some_iff.mp h
  exact ⟨hstep, rfl, rfl⟩

theorem finished_iff {m : Machine} : m.finished steps = true ↔ m.next? steps = none := by
  simp [finished, next?]

theorem advance_of_next?_none {m : Machine} (h : m.next? steps = none) : m.advance steps = m := by
  have hstep : steps[m.cursor]? = none := by simpa [next?] using h
  simp only [advance, hstep]

/-- A move of the machine is what the visit makes of the state and of the cursor. -/
theorem advance_of_next? {m : Machine} {v : Visit} (h : m.next? steps = some v) :
    m.advance steps = ⟨v.after steps, (v.motion steps).cursor steps.length v.index⟩ := by
  obtain ⟨step, hstep, rfl⟩ := Option.map_eq_some_iff.mp h
  simp only [advance, hstep]
  rfl

/-! ## Many moves -/

@[simp] theorem run_zero (m : Machine) : run steps 0 m = m := rfl

/-- `Machine.run` looks ahead for the end of the run; counted in moves it need not. -/
theorem run_succ (moves : Nat) (m : Machine) :
    run steps (moves + 1) m = run steps moves (m.advance steps) := by
  rw [run]
  split
  · next h =>
    -- A run that is over stays where it is, however many moves are left.
    have hstay : m.advance steps = m := advance_of_next?_none (finished_iff.mp h)
    rw [hstay]
    clear hstay
    induction moves with
    | zero => rfl
    | succ moves ih => rw [run, if_pos h]
  · rfl

theorem run_add (a b : Nat) (m : Machine) : run steps (a + b) m = run steps b (run steps a m) := by
  induction a generalizing m with
  | zero => simp
  | succ a ih => rw [Nat.add_right_comm, run_succ, run_succ, ih]

/-- The last move split off, as inductions over the moves of a run need it. -/
theorem run_succ' (moves : Nat) (m : Machine) :
    run steps (moves + 1) m = (run steps moves m).advance steps := by
  rw [run_add, run_succ, run_zero]

/-- A run that is over stays as it is. -/
theorem run_of_finished {m : Machine} (h : m.finished steps = true) (moves : Nat) :
    run steps moves m = m := by
  induction moves with
  | zero => rfl
  | succ moves ih => rw [run_succ', ih, advance_of_next?_none (finished_iff.mp h)]

/-- More moves than a run needs change nothing. -/
theorem run_eq_of_finished {m : Machine} {moves more : Nat} (hle : moves ≤ more)
    (h : (run steps moves m).finished steps = true) : run steps more m = run steps moves m := by
  obtain ⟨extra, rfl⟩ := Nat.exists_eq_add_of_le hle
  rw [run_add, run_of_finished h]

/-- What holds of a machine and is kept by every visit holds of every machine that it reaches. -/
theorem run_invariant {P : Machine → Prop} {m : Machine} (h : P m)
    (hstep : ∀ m v, m.next? steps = some v → P m → P (m.advance steps)) (moves : Nat) :
    P (run steps moves m) := by
  -- Induction on the moves, the last one split off: the invariant is carried through the machine
  -- that is reached, not through the one that the run began with.
  induction moves with
  | zero => exact h
  | succ moves ih =>
      rw [run_succ']
      cases hnext : (run steps moves m).next? steps with
      | none => rwa [advance_of_next?_none hnext]
      | some v => exact hstep _ v hnext ih

/-! ## The list of visits -/

@[simp] theorem visits_zero (m : Machine) : visits steps 0 m = [] := rfl

theorem visits_succ_of_none {m : Machine} (h : m.next? steps = none) (moves : Nat) :
    visits steps (moves + 1) m = [] := by
  rw [visits, h]

theorem visits_succ_of_some {m : Machine} {v : Visit} (h : m.next? steps = some v) (moves : Nat) :
    visits steps (moves + 1) m = v :: visits steps moves (m.advance steps) := by
  rw [visits, h]

/-- The visit at position `k` is the one that is made after `k` moves. -/
theorem getElem?_visits (moves k : Nat) (m : Machine) :
    (visits steps moves m)[k]? = if k < moves then (run steps k m).next? steps else none := by
  induction moves generalizing k m with
  | zero => simp
  | succ moves ih =>
      cases hnext : m.next? steps with
      | none =>
          rw [visits_succ_of_none hnext, run_of_finished (finished_iff.mpr hnext), hnext]
          simp
      | some v =>
          rw [visits_succ_of_some hnext]
          cases k with
          | zero => simp [hnext]
          | succ k => simp [ih, run_succ]

/-- The form in which `getElem?_visits` is used: a visit that was made found its step. -/
theorem getElem?_visits_eq_some {moves k : Nat} {m : Machine} {v : Visit} :
    (visits steps moves m)[k]? = some v ↔ k < moves ∧ (run steps k m).next? steps = some v := by
  rw [getElem?_visits]
  split
  · next hlt => exact (and_iff_right hlt).symm
  · next hge => exact iff_of_false (by simp) fun h => hge h.1

theorem mem_visits_iff {moves : Nat} {m : Machine} {v : Visit} :
    v ∈ visits steps moves m ↔ ∃ k < moves, (run steps k m).next? steps = some v := by
  rw [List.mem_iff_getElem?]
  exact exists_congr fun k => getElem?_visits_eq_some

/-- The visits of some moves and of more that follow. -/
theorem visits_add (a b : Nat) (m : Machine) :
    visits steps (a + b) m = visits steps a m ++ visits steps b (run steps a m) := by
  induction a generalizing m with
  | zero => simp
  | succ a ih =>
      rw [Nat.add_right_comm]
      cases hnext : m.next? steps with
      -- The run ends within the first moves, so there is nothing to be made with the others.
      | none =>
          have hover : m.finished steps = true := finished_iff.mpr hnext
          rw [visits_succ_of_none hnext, visits_succ_of_none hnext, run_of_finished hover]
          cases b with
          | zero => rfl
          | succ b => rw [visits_succ_of_none hnext, List.append_nil]
      | some v =>
          rw [visits_succ_of_some hnext, visits_succ_of_some hnext, ih, run_succ, List.cons_append]

/-- A run that is over makes no further visit. -/
theorem visits_eq_of_finished {m : Machine} {moves more : Nat} (hle : moves ≤ more)
    (h : (run steps moves m).finished steps = true) :
    visits steps more m = visits steps moves m := by
  obtain ⟨extra, rfl⟩ := Nat.exists_eq_add_of_le hle
  have hnone : visits steps extra (run steps moves m) = [] := by
    cases extra with
    | zero => rfl
    | succ extra => exact visits_succ_of_none (finished_iff.mp h) extra
  rw [visits_add, hnone, List.append_nil]

/-- A call that is cut off earlier has made the same visits up to there. -/
theorem take_visits {k moves : Nat} (h : k ≤ moves) (m : Machine) :
    (visits steps moves m).take k = visits steps k m := by
  apply List.ext_getElem?
  intro i
  rw [List.getElem?_take, getElem?_visits, getElem?_visits]
  by_cases hi : i < k
  · rw [if_pos hi, if_pos hi, if_pos (by omega)]
  · rw [if_neg hi, if_neg hi]

/-- A run that is not over has made all its moves. -/
theorem length_visits_of_not_finished {moves : Nat} {m : Machine}
    (h : ¬(run steps moves m).finished steps = true) : (visits steps moves m).length = moves := by
  induction moves generalizing m with
  | zero => rfl
  | succ moves ih =>
      cases hnext : m.next? steps with
      | none =>
          have hover : m.finished steps = true := finished_iff.mpr hnext
          rw [run_of_finished hover] at h
          exact absurd hover h
      | some v =>
          rw [run_succ] at h
          rw [visits_succ_of_some hnext, List.length_cons, ih h]

/-- A visit that stops the run, or goes behind the last step, is the last one. -/
theorem visits_end {moves k : Nat} {m : Machine} {v : Visit}
    (h : (visits steps moves m)[k]? = some v)
    (hend : steps.length ≤ (v.motion steps).cursor steps.length v.index) :
    (visits steps moves m).length = k + 1 := by
  have hk : k < (visits steps moves m).length := (List.getElem?_eq_some_iff.mp h).1
  -- The list has no visit at the next position: behind this one the cursor finds no step.
  have hnone : (visits steps moves m)[k + 1]? = none := by
    rw [getElem?_visits] at h ⊢
    split
    · rw [if_pos (by omega)] at h
      rw [run_succ', advance_of_next? h]
      simpa [next?] using hend
    · rfl
  have := List.getElem?_eq_none_iff.mp hnone
  omega

/-- In a run that is over, the last visit leaves no step to go on with. -/
theorem le_cursor_of_visits_end {moves k : Nat} {m : Machine} {v : Visit}
    (hover : (run steps moves m).finished steps = true)
    (h : (visits steps moves m)[k]? = some v) (hlast : (visits steps moves m).length = k + 1) :
    steps.length ≤ (v.motion steps).cursor steps.length v.index := by
  have hnone : (visits steps moves m)[k + 1]? = none :=
    List.getElem?_eq_none_iff.mpr (by omega)
  obtain ⟨hk, hnext⟩ := getElem?_visits_eq_some.mp h
  -- Either a further move was possible and found no step, or this was the last move.
  have hstop : (run steps (k + 1) m).finished steps = true := by
    by_cases hmore : k + 1 < moves
    · rw [getElem?_visits, if_pos hmore] at hnone
      exact finished_iff.mpr hnone
    · obtain rfl : moves = k + 1 := by omega
      exact hover
  rw [run_succ', advance_of_next? hnext] at hstop
  simpa [finished] using hstop

end Machine

/-! ## Calls of a pipeline -/

/-- What a pipeline is called with. A call is cut off after `moves` moves. -/
structure Call where
  moves : Nat
  input : Record
  initial : Record

namespace Pipeline

/-- The machine of a call, before its first move. -/
def machine (p : Pipeline) (input initial : Record) : Machine := ⟨p.start input initial, 0⟩

def visits (p : Pipeline) (moves : Nat) (input initial : Record) : List Visit :=
  Machine.visits p.steps moves (p.machine input initial)

/-- All that a call leaves behind is read off the machine at its end. -/
theorem runFor_congr {p : Pipeline} {moves more : Nat} {input initial : Record}
    (h : Machine.run p.steps moves (p.machine input initial) =
      Machine.run p.steps more (p.machine input initial)) :
    p.runFor moves input initial = p.runFor more input initial := by
  unfold runFor
  rw [show (⟨p.start input initial, 0⟩ : Machine) = p.machine input initial from rfl, h]

def call (p : Pipeline) (c : Call) : Pipeline × RunResult := p.runFor c.moves c.input c.initial

def callAll (p : Pipeline) (calls : List Call) : Pipeline :=
  calls.foldl (fun p c => (p.call c).1) p

/-- Calls leave the steps as they are. -/
theorem steps_callAll (p : Pipeline) (calls : List Call) : (p.callAll calls).steps = p.steps := by
  induction calls generalizing p with
  | nil => rfl
  | cons c rest ih => exact ih (p.call c).1

/-- A visit executes the step at its position. -/
theorem getElem?_steps_of_mem_visits {p : Pipeline} {moves : Nat} {input initial : Record}
    {v : Visit} (h : v ∈ p.visits moves input initial) : p.steps[v.index]? = some v.step := by
  obtain ⟨k, -, hnext⟩ := Machine.mem_visits_iff.mp h
  exact (Machine.next?_eq_some hnext).1

def history (p : Pipeline) : List Call → List StepResult
  | [] => []
  | c :: rest => (p.call c).1.state.summary.results ++ (p.call c).1.history rest

theorem history_append (p : Pipeline) (calls more : List Call) :
    p.history (calls ++ more) = p.history calls ++ (p.callAll calls).history more := by
  induction calls generalizing p with
  | nil => rfl
  | cons c rest ih =>
      rw [List.cons_append, history, history, ih, List.append_assoc]
      rfl

end Pipeline
end StepPipeline
