import StepPipeline.Blocks.Scripted
import StepPipeline.Proofs.Run.Jumps

/-!
# Caps bound jumps

A cap may be any number, while a counter is a word of 32 bits that outlives the calls of its
pipeline. The engine compares the two as numbers before it counts a jump. So a jump under a cap that
a counter can hold finds room in its counter, whatever blocks have done to the counters before
(`Visit.settles`, `Visit.counts_one`).

How many jumps there are is a matter of the blocks as well, since one that clears the counters makes
room for more. For the others `Context.Climbs` says what visits make of a counter: it grows by no
less than their jumps, and these stop at a bound of the caps. One visit keeps to that
(`Visit.climbs`), and what visits do adds up along a run and along any number of calls.

Main statement: `caps_bound_jumps`. It speaks of the caps in force, sent or not, of those that a
counter can hold, and of blocks that lower no counter. `jumps_beyond_caps` has a pipeline against
each of the three bounds without that.
-/

namespace StepPipeline

variable {steps : List Step}

/-! ## Requests and their caps -/

/-- The cap that an output sends; what is no number of times counts as not sent. -/
def sentCap? (output : Record) : Option Nat :=
  (Table.find? output "_maxLoops").bind Json.count?

/-- A request that comes as far as its cap: the text of the target, and the output that asks. -/
def Visit.asked? (steps : List Step) (v : Visit) : Option (String × Record) :=
  match v.outcome with
  | .success output =>
    if asksForEnd output then none
    else (jumpAsked? steps v.index output).map fun asked => (asked.1, output)
  | _ => none

/-- The outputs that asked for a jump with a text, as far as they came to their caps. -/
def requestsTo (steps : List Step) (visits : List Visit) (key : String) : List Record :=
  (visits.filterMap (Visit.asked? steps)).filterMap fun asked =>
    if asked.1 = key then some asked.2 else none

/-- The largest cap that was in force for jumps with a text. -/
def largestCap (steps : List Step) (visits : List Visit) (key : String) : Nat :=
  ((requestsTo steps visits key).map loopCap).max?.getD 0

/-- Needed to bound the cap of each jump: a granted request is one of those the maximum is taken
over. -/
theorem loopCap_le_largestCap {visits : List Visit} {v : Visit} {key : String} {output : Record}
    (hv : v ∈ visits) (hasked : v.asked? steps = some (key, output)) :
    loopCap output ≤ largestCap steps visits key := by
  apply List.le_max?_getD_of_mem
  apply List.mem_map_of_mem
  apply List.mem_filterMap.mpr
  exact ⟨(key, output), List.mem_filterMap.mpr ⟨v, hv, hasked⟩, if_pos rfl⟩

/-- A request comes as far as its cap if the step succeeded, did not ask for the end, and designated
an earlier step. -/
theorem Visit.asked?_eq_some_iff {v : Visit} {key : String} {output : Record} :
    v.asked? steps = some (key, output) ↔
      v.outcome = .success output ∧ asksForEnd output = false ∧
        ∃ target, jumpAsked? steps v.index output = some (key, target) := by
  unfold asked?
  constructor
  · intro h
    split at h
    · next found hout =>
      split at h
      · cases h
      · next hend =>
        obtain ⟨⟨found, target⟩, hasked, heq⟩ := Option.map_eq_some_iff.mp h
        obtain ⟨rfl, rfl⟩ := Prod.mk.inj heq
        exact ⟨hout, by simpa using hend, target, hasked⟩
    · cases h
  · rintro ⟨hout, hend, target, hasked⟩
    simp [hout, hend, hasked]

/-! ## One visit -/

namespace Visit

variable {v : Visit} {key : String}

/-- A visit that does not jump leaves the context as its block did. One that does was asked to,
found its counter below the cap in force, and counts the jump. -/
theorem settles (steps : List Step) (v : Visit) :
    (v.jumpKey? steps = none ∧ (v.after steps).context = v.called.1.context) ∨
    ∃ key output, v.jumpKey? steps = some key ∧ v.asked? steps = some (key, output) ∧
      (v.called.1.context.jumpCount key).toNat < loopCap output ∧
      (v.after steps).context = v.called.1.context.countJump key := by
  rcases v.context_after steps with ⟨hctx, hstay⟩ | ⟨output, key, target, hout, hend, hasked,
    hbelow, hctx, hmotion⟩
  · exact .inl ⟨jumpKey?_of_stay hstay, hctx⟩
  · obtain ⟨loopTo, ⟨hfound, -⟩, rfl⟩ := jumpAsked?_eq_some_iff.mp hasked
    have hreaches := asked?_eq_some_iff.mpr ⟨hout, hend, target, hasked⟩
    exact .inr ⟨_, output, jumpKey?_of_back hout hfound hmotion, hreaches, hbelow, hctx⟩

/-- Below a cap that a counter can hold there is room for one more. -/
theorem counts_one {cap : Nat} (hcap : cap < UInt32.size)
    (hbelow : (v.called.1.context.jumpCount key).toNat < cap)
    (hctx : (v.after steps).context = v.called.1.context.countJump key) :
    (v.called.1.context.jumpCount key).toNat + 1 < UInt32.size ∧
      ((v.after steps).context.jumpCount key).toNat =
        (v.called.1.context.jumpCount key).toNat + 1 := by
  have hroom : (v.called.1.context.jumpCount key).toNat + 1 < UInt32.size := by omega
  rw [hctx]
  exact ⟨hroom, Context.toNat_jumpCount_countJump hroom⟩

end Visit

/-! ## Counters that no block lowers -/

theorem jumpsTo_append (steps : List Step) (front back : List Visit) (key : String) :
    jumpsTo steps (front ++ back) key = jumpsTo steps front key + jumpsTo steps back key :=
  List.countP_append

/-- What visits make of a counter: it grows by no less than their jumps, and these stop at the
bound. -/
structure Context.Climbs (steps : List Step) (key : String) (bound : Nat) (visits : List Visit)
    (c c' : Context) : Prop where
  counted : (c.jumpCount key).toNat + jumpsTo steps visits key ≤ (c'.jumpCount key).toNat
  bounded : jumpsTo steps visits key ≤ bound - (c.jumpCount key).toNat

namespace Context.Climbs

variable {key : String} {bound : Nat} {front back : List Visit} {c c' c'' : Context}

theorem refl (c : Context) : Climbs steps key bound [] c c :=
  ⟨Nat.le_refl _, Nat.zero_le _⟩

/-- What two stretches of visits make of a counter adds up: the second one starts where the first
one has brought the counter. -/
theorem trans (hfront : Climbs steps key bound front c c')
    (hback : Climbs steps key bound back c' c'') :
    Climbs steps key bound (front ++ back) c c'' := by
  obtain ⟨hcounted, hbounded⟩ := hfront
  obtain ⟨hcounted', hbounded'⟩ := hback
  constructor
  · rw [jumpsTo_append]
    omega
  · rw [jumpsTo_append]
    omega

end Context.Climbs

/-- A visit whose block does not lower the counter, and whose cap is in bounds. -/
structure Visit.Capped (steps : List Step) (key : String) (bound : Nat) (v : Visit) : Prop where
  keeps : v.before.context.jumpCount key ≤ v.called.1.context.jumpCount key
  cap_le : ∀ output, v.asked? steps = some (key, output) → loopCap output ≤ bound

section Climbing

variable {key : String} {bound : Nat}

/-- **One visit.** It jumps at most once, and only while its counter is below the bound. -/
theorem Visit.climbs {v : Visit} (h : v.Capped steps key bound) (hbound : bound < UInt32.size) :
    Context.Climbs steps key bound [v] v.before.context (v.after steps).context := by
  have hcalled := UInt32.le_iff_toNat_le.mp h.keeps
  rcases v.settles steps with ⟨hnone, hctx⟩ | ⟨other, output, hkey, hasked, hbelow, hctx⟩
  · have hjumps : jumpsTo steps [v] key = 0 := by
      simp [jumpsTo, hnone]
    constructor
    · rw [hjumps, hctx]
      exact hcalled
    · rw [hjumps]
      exact Nat.zero_le _
  · -- A jump with another text leaves this counter as the block did.
    by_cases hother : other = key
    · subst hother
      have hjumps : jumpsTo steps [v] other = 1 := by
        simp [jumpsTo, hkey]
      have hcap := h.cap_le output hasked
      obtain ⟨-, hone⟩ := counts_one (by omega) hbelow hctx
      constructor
      · omega
      · omega
    · have hjumps : jumpsTo steps [v] key = 0 := by
        simp [jumpsTo, hkey, hother]
      constructor
      · rw [hjumps, hctx, Context.jumpCount_countJump_of_ne _ (Ne.symm hother)]
        exact hcalled
      · rw [hjumps]
        exact Nat.zero_le _

/-- A run, visit by visit. -/
theorem Machine.climbs_run {moves : Nat} {m : Machine}
    (hvisits : ∀ v ∈ visits steps moves m, v.Capped steps key bound)
    (hbound : bound < UInt32.size) :
    Context.Climbs steps key bound (visits steps moves m) m.state.context
      (run steps moves m).state.context := by
  induction moves generalizing m with
  | zero => exact .refl _
  | succ moves ih =>
      cases hnext : m.next? steps with
      | none =>
          rw [run_of_finished (finished_iff.mpr hnext), visits_succ_of_none hnext]
          exact .refl _
      | some v =>
          rw [visits_succ_of_some hnext] at hvisits ⊢
          obtain ⟨hv, hrest⟩ := List.forall_mem_cons.mp hvisits
          have hfirst : Context.Climbs steps key bound [v] m.state.context
              (m.advance steps).state.context := by
            rw [advance_of_next? hnext, ← (next?_eq_some hnext).2.1]
            exact Visit.climbs hv hbound
          rw [run_succ]
          exact hfirst.trans (ih hrest)

/-- And any number of calls, since counters outlive them. -/
theorem Pipeline.climbs_callAll {p : Pipeline} {calls : List Call}
    (hvisits : ∀ v ∈ p.trail calls, v.Capped p.steps key bound) (hbound : bound < UInt32.size) :
    Context.Climbs p.steps key bound (p.trail calls) p.state.context
      (p.callAll calls).state.context := by
  induction calls generalizing p with
  | nil => exact .refl _
  | cons c rest ih =>
      obtain ⟨hfirst, hrest⟩ := List.forall_mem_append.mp hvisits
      -- A call begins with the counters that it finds, and ends with those of its last visit.
      have hcall : Context.Climbs p.steps key bound (p.visits c.moves c.input c.initial)
          p.state.context (p.call c).1.state.context := by
        obtain ⟨hcounted, hbounded⟩ := Machine.climbs_run hfirst hbound
        exact ⟨hcounted, hbounded⟩
      exact hcall.trans (ih (p := (p.call c).1) hrest)

end Climbing

/-- **Caps bound jumps.** A pipeline is called any number of times, the last call cut off anywhere.
A visit that does not jump counts nothing. A jump finds the counter of its text below the cap in
force; if a counter can hold that cap, the counter is not at its greatest value yet, and counting
adds one. Where no block lowers the counter, the jumps with a text are no more than the largest cap
in force for them, less what was counted before the first call. -/
theorem caps_bound_jumps (p : Pipeline) (calls : List Call) :
    let visits := p.trail calls
    (∀ v ∈ visits, v.jumpKey? p.steps = none →
      (v.after p.steps).context = v.called.1.context) ∧
    (∀ v ∈ visits, ∀ key, v.jumpKey? p.steps = some key →
      ∃ output, v.asked? p.steps = some (key, output) ∧
        (v.called.1.context.jumpCount key).toNat < loopCap output ∧
        (v.after p.steps).context = v.called.1.context.countJump key ∧
        (loopCap output < 2 ^ 32 →
          (v.called.1.context.jumpCount key).toNat < 2 ^ 32 - 1 ∧
          ((v.after p.steps).context.jumpCount key).toNat =
            (v.called.1.context.jumpCount key).toNat + 1)) ∧
    ∀ key, (∀ v ∈ visits, v.before.context.jumpCount key ≤ v.called.1.context.jumpCount key) →
      largestCap p.steps visits key < 2 ^ 32 →
      jumpsTo p.steps visits key ≤
        largestCap p.steps visits key - (p.state.context.jumpCount key).toNat := by
  intro visits
  refine ⟨?_, ?_, ?_⟩
  · intro v _ hnone
    rcases v.settles p.steps with ⟨-, hctx⟩ | ⟨_, _, hkey, -⟩
    · exact hctx
    · rw [hnone] at hkey
      cases hkey
  · intro v _ key hkey
    rcases v.settles p.steps with ⟨hnone, -⟩ | ⟨found, output, hfound, hasked, hbelow, hctx⟩
    · rw [hnone] at hkey
      cases hkey
    · obtain rfl := Option.some.inj (hfound.symm.trans hkey)
      refine ⟨output, hasked, hbelow, hctx, fun hcap => ?_⟩
      obtain ⟨hroom, hone⟩ := Visit.counts_one hcap hbelow hctx
      exact ⟨Nat.lt_sub_of_add_lt hroom, hone⟩
  · intro key hkeeps hlargest
    have hcapped : ∀ v ∈ visits, v.Capped p.steps key (largestCap p.steps visits key) :=
      fun v hv => ⟨hkeeps v hv, fun _ hasked => loopCap_le_largestCap hv hasked⟩
    exact (Pipeline.climbs_callAll hcapped hlargest).bounded

/-- Two rounds in a first call and eight in a second one: the jumps to the pause are no more than
the cap 10 that the loop sends, and the first of them finds room in its counter. -/
theorem pauseAndLoop_capped :
    let visits := pauseAndLoop.trail [⟨4, [], []⟩, ⟨18, [], []⟩]
    (∀ v ∈ visits, v.before.context.jumpCount "pause" ≤ v.called.1.context.jumpCount "pause") ∧
    largestCap pauseAndLoop.steps visits "pause" = 10 ∧
    jumpsTo pauseAndLoop.steps visits "pause" ≤ 10 ∧
    ∃ paused looped, visits[0]? = some paused ∧ visits[1]? = some looped ∧
      (paused.after pauseAndLoop.steps).context = paused.called.1.context ∧
      looped.jumpKey? pauseAndLoop.steps = some "pause" ∧
      ((looped.after pauseAndLoop.steps).context.jumpCount "pause").toNat = 1 := by
  intro visits
  have hkeeps : ∀ v ∈ visits,
      v.before.context.jumpCount "pause" ≤ v.called.1.context.jumpCount "pause" := by
    decide +kernel
  have hlargest : largestCap pauseAndLoop.steps visits "pause" = 10 := by
    decide +kernel
  obtain ⟨hstays, hjumps, hbound⟩ :=
    caps_bound_jumps pauseAndLoop [⟨4, [], []⟩, ⟨18, [], []⟩]
  have hle := hbound "pause" hkeeps (by rw [hlargest]; decide)
  refine ⟨hkeeps, hlargest, by rwa [hlargest] at hle, _, _, rfl, rfl, ?_, rfl, ?_⟩
  · exact hstays _ (List.mem_of_getElem? (i := 0) rfl) rfl
  · have hmem := List.mem_of_getElem? (i := 1) (l := visits) rfl
    obtain ⟨output, hasked, -, -, hone⟩ := hjumps _ hmem "pause" rfl
    have hcap := loopCap_le_largestCap hmem hasked
    rw [(hone (by omega)).2]
    rfl

/-! ## Why no more is said -/

def answering (id : String) (output : Record) : Step :=
  let config : Record := [("output", .obj output)]
  { id, block := Blocks.fixed config, config := some config }

/-- The first request sends the cap 1, the second one sends none and stands under the default. -/
def cappedOnce : Pipeline where
  steps := [
    answering "a" [],
    answering "capped" [("_loopTo", .str "a"), ("_maxLoops", .nat 1)],
    answering "uncapped" [("_loopTo", .str "a")]]

/-- The request sends the cap 1, and clears the context each time. -/
def forgetfulLoop : Pipeline where
  steps := [
    answering "a" [],
    { id := "b"
      block := {
        type := "forgetful"
        process := fun _ _ _ => ⟨.ok [("_loopTo", .str "a"), ("_maxLoops", .nat 1)], {}⟩ } }]

/-- The request sends a cap that no counter comes to. -/
def endlessLoop : Pipeline where
  steps := [answering "a" [], answering "b" [("_loopTo", .str "a"), ("_maxLoops", .nat (2 ^ 32))]]

/-- A round through the endless loop ends with a jump, whatever the counter is. -/
theorem endlessLoop_round (s : State) :
    let m : Machine := ⟨s, 0⟩
    ∃ first last,
      Machine.visits endlessLoop.steps 2 m = [first, last] ∧
      first.jumpKey? endlessLoop.steps = none ∧
      last.jumpKey? endlessLoop.steps = some "a" ∧
      last.called.1.context.jumpCount "a" = s.context.jumpCount "a" ∧
      (last.after endlessLoop.steps).context.jumpCount "a" = s.context.jumpCount "a" + 1 ∧
      Machine.run endlessLoop.steps 2 m = ⟨last.after endlessLoop.steps, 0⟩ := by
  intro m
  let first : Visit := ⟨s, 0, answering "a" []⟩
  let output : Record := [("_loopTo", .str "a"), ("_maxLoops", .nat (2 ^ 32))]
  let last : Visit := ⟨first.after endlessLoop.steps, 1, answering "b" output⟩
  have hout : last.outcome = .success output := rfl
  have hend : asksForEnd output = false := by decide
  have hasks : AsksFor endlessLoop.steps last.index output (.str "a") 0 := by
    refine ⟨rfl, .id rfl rfl ?_, Nat.one_pos⟩
    intro i hi
    exact absurd hi (Nat.not_lt_zero i)
  have hread : loopCap output = 2 ^ 32 := by
    decide +kernel
  -- No counter comes to this cap.
  have hback : last.motion endlessLoop.steps = .back 0 := by
    apply (Visit.motion_back_iff hout hend hasks).mpr
    rw [hread]
    exact UInt32.toNat_lt _
  have hkey : last.jumpKey? endlessLoop.steps = some "a" :=
    Visit.jumpKey?_of_back hout rfl hback
  have hnext : (m.advance endlessLoop.steps).next? endlessLoop.steps = some last := rfl
  refine ⟨first, last, rfl, rfl, hkey, rfl, ?_, ?_⟩
  · rcases last.settles endlessLoop.steps with ⟨hnone, -⟩ | ⟨key, _, hsame, -, -, hctx⟩
    · rw [hnone] at hkey
      cases hkey
    · obtain rfl := Option.some.inj (hsame.symm.trans hkey)
      rw [hctx, Context.jumpCount_countJump_self]
      rfl
  · rw [Machine.run_succ, Machine.run_succ, Machine.run_zero, Machine.advance_of_next? hnext, hback]
    rfl

/-- Each round jumps once, while the counter goes round in its word. -/
theorem endlessLoop_rounds (s : State) (rounds : Nat) :
    let m : Machine := ⟨s, 0⟩
    jumpsTo endlessLoop.steps (Machine.visits endlessLoop.steps (2 * rounds) m) "a" = rounds ∧
    ∃ s', Machine.run endlessLoop.steps (2 * rounds) m = ⟨s', 0⟩ ∧
      s'.context.jumpCount "a" = s.context.jumpCount "a" + UInt32.ofNat rounds := by
  intro m
  induction rounds with
  | zero => exact ⟨rfl, s, rfl, (UInt32.add_zero _).symm⟩
  | succ rounds ih =>
      obtain ⟨hjumps, s', hrun, hcount⟩ := ih
      obtain ⟨first, last, hvisits, hnone, hkey, -, hone, hround⟩ := endlessLoop_round s'
      rw [Nat.mul_succ]
      refine ⟨?_, last.after endlessLoop.steps, ?_, ?_⟩
      · rw [Machine.visits_add, jumpsTo_append, hjumps, hrun, hvisits]
        simp [jumpsTo, hnone, hkey]
      · rw [Machine.run_add, hrun, hround]
      · rw [hone, hcount, UInt32.ofNat_add, UInt32.add_assoc]
        rfl

/-- Every request of the endless loop sends its cap. -/
theorem sentCap?_endlessLoop {v : Visit} (hstep : v.step ∈ endlessLoop.steps) {key : String}
    {output : Record} (hasked : v.asked? endlessLoop.steps = some (key, output)) :
    sentCap? output = some (2 ^ 32) := by
  obtain ⟨hout, -, target, hjump⟩ := Visit.asked?_eq_some_iff.mp hasked
  have hanswer := (v.answer_of_success hout).1
  obtain ⟨before, index, step⟩ := v
  simp only [endlessLoop, List.mem_cons, List.not_mem_nil, or_false] at hstep
  rcases hstep with rfl | rfl
  · obtain rfl := Except.ok.inj hanswer
    cases hjump
  · obtain rfl := Except.ok.inj hanswer
    decide +kernel

/-- Caps bound no jumps in three cases. A request without a cap of its own is granted more jumps
than the largest cap sent with its text. A block that clears the counters is granted jumps anew. And
under a cap that no counter comes to a full counter is counted on, and begins at zero again. -/
theorem jumps_beyond_caps :
    (let visits := cappedOnce.trail [⟨32, [], []⟩]
     cappedOnce.state.context.jumpCounts = [] ∧
     (requestsTo cappedOnce.steps visits "a").filterMap sentCap? = List.replicate 11 1 ∧
     jumpsTo cappedOnce.steps visits "a" = 10) ∧
    (let visits := forgetfulLoop.trail [⟨4, [], []⟩]
     forgetfulLoop.state.context.jumpCounts = [] ∧
     (requestsTo forgetfulLoop.steps visits "a").filterMap sentCap? = [1, 1] ∧
     jumpsTo forgetfulLoop.steps visits "a" = 2) ∧
    (let visits := endlessLoop.trail [⟨2 ^ 33 + 2, [], []⟩]
     endlessLoop.state.context.jumpCounts = [] ∧
     (∀ v ∈ visits, ∀ key output, v.asked? endlessLoop.steps = some (key, output) →
       sentCap? output = some (2 ^ 32)) ∧
     jumpsTo endlessLoop.steps visits "a" = 2 ^ 32 + 1 ∧
     ∃ v ∈ visits, v.jumpKey? endlessLoop.steps = some "a" ∧
       (v.called.1.context.jumpCount "a").toNat = 2 ^ 32 - 1 ∧
       ((v.after endlessLoop.steps).context.jumpCount "a").toNat = 0) := by
  -- The first two are run; the third takes too many moves and goes by rounds.
  refine ⟨⟨rfl, ?_, ?_⟩, ⟨rfl, ?_, ?_⟩, ?_⟩
  · decide +kernel
  · decide +kernel
  · decide +kernel
  · decide +kernel
  · intro visits
    let s := endlessLoop.start [] []
    have htrail : visits = Machine.visits endlessLoop.steps (2 ^ 33 + 2) ⟨s, 0⟩ :=
      List.append_nil _
    refine ⟨rfl, ?_, ?_, ?_⟩
    · intro v hv key output hasked
      have hstep := List.mem_of_getElem? (Pipeline.getElem?_steps_of_mem_trail hv)
      exact sentCap?_endlessLoop hstep hasked
    · rw [htrail, show 2 ^ 33 + 2 = 2 * (2 ^ 32 + 1) from by decide]
      exact (endlessLoop_rounds s (2 ^ 32 + 1)).1
    · -- The counter is full after one round less than it has values.
      obtain ⟨-, s', hrun, hcount⟩ := endlessLoop_rounds s (2 ^ 32 - 1)
      obtain ⟨first, last, hvisits, -, hkey, hfound, hone, -⟩ := endlessLoop_round s'
      have hzero : s.context.jumpCount "a" = 0 := rfl
      refine ⟨last, ?_, hkey, ?_, ?_⟩
      · rw [htrail, show 2 ^ 33 + 2 = 2 * (2 ^ 32 - 1) + 2 + 2 from by decide, Machine.visits_add,
          Machine.visits_add, hrun, hvisits]
        simp
      · rw [hfound, hcount, hzero]
        decide
      · rw [hone, hcount, hzero]
        decide

end StepPipeline
