import StepPipeline.Blocks.Standard
import StepPipeline.Proofs.Run.Reports
import StepPipeline.Proofs.Store.Bookkeeping
import StepPipeline.Proofs.Template.Texts

/-!
# What a setup hands over

The tests and the teardown of a suite begin with what the setup left in its context, counters and
test dropped. On the way there it becomes the context of a document, and building a document expands
its context from the environment. The values that the setup left were expanded when the setup was
built, and here they are once more: a value arrives as it was left exactly if no text inside it asks
for a variable that is set. How a context is inherited in this way is said by `Context.Inherits`.

Main statement: `setup_hands_over`.
-/

namespace StepPipeline

/-- The context that a run begins with, `first`, has what was left in an earlier one under each name
without a value of its own. -/
structure Context.Inherits (env : Environment) (left : Context) (own : Record) (first : Context) :
    Prop where
  /-- Nothing is added, and every value is expanded. -/
  expanded : ∀ key, IsPlainName key → Table.find? own key = none →
    first.get? key = (left.get? key).map env.expand
  /-- A value arrives unchanged exactly if the environment leaves each text inside it. -/
  unchanged_iff : ∀ key, IsPlainName key → Table.find? own key = none →
    (first.get? key = left.get? key ↔
      ∀ value, left.get? key = some value → ∀ text ∈ value.texts, env.expandText text = text)
  jumpCount_eq : ∀ target, first.jumpCount target = 0
  /-- Counters are not handed over as values either. -/
  get?_jumpKey : ∀ target, Table.find? own (jumpKey target) = none →
    first.get? (jumpKey target) = none

namespace Pipeline

theorem context_runFor (p : Pipeline) (moves : Nat) (input initial : Record) :
    (p.runFor moves input initial).2.context =
      (p.runFor moves input initial).1.state.context.toRecord :=
  rfl

/-- What a run hands back is its context, flattened. -/
theorem context_run (p : Pipeline) (input initial : Record) :
    (p.run input initial).2.context = (p.run input initial).1.state.context.toRecord := by
  rw [run]
  exact p.context_runFor _ input initial

end Pipeline

namespace Workbench

variable {b : Workbench} {name : String} {steps : List StepDescription} {p : Pipeline}

/-- A part begins with the values of its document, expanded, and with no counter. -/
theorem start_partDocument {context : Record}
    (h : b.build (partDocument name steps context) = .ok p) (input : Record) :
    (p.start input []).context.values = b.environment.expandFields context ∧
      (p.start input []).context.jumpCounts = [] := by
  have hstart : (p.start input []).context = p.state.context := rfl
  rw [hstart, (build_eq_ok h).2.2]
  exact ⟨rfl, rfl⟩

/-- What is found first under a name that a part does not give a value of its own. -/
theorem get?_start_partDocument {left : Context} {own : Record}
    (h : b.build (partDocument name steps
      (Table.overlay (Context.withoutBookkeeping left.toRecord) own)) = .ok p) (input : Record)
    {key : String} (hown : Table.find? own key = none) :
    (p.start input []).context.get? key =
      if Context.isBookkeeping key then none else (left.get? key).map b.environment.expand := by
  rw [Context.get?, (start_partDocument h input).1, Environment.find?_expandFields,
    Table.find?_overlay_of_not_mem (Table.find?_eq_none_iff.mp hown),
    Context.find?_withoutBookkeeping]
  cases hkey : Context.isBookkeeping key with
  | true => rfl
  | false =>
      rw [← left.find?_toRecord hkey]
      rfl

/-- The values are those of the flat record without its bookkeeping, expanded when the document is
built; the counters start anew. -/
theorem inherits_of_build {left : Context} {own : Record}
    (h : b.build (partDocument name steps
      (Table.overlay (Context.withoutBookkeeping left.toRecord) own)) = .ok p) (input : Record) :
    Context.Inherits b.environment left own (p.start input []).context := by
  have hexpanded : ∀ key, Context.IsPlainName key → Table.find? own key = none →
      (p.start input []).context.get? key = (left.get? key).map b.environment.expand := by
    intro key hkey hown
    rw [get?_start_partDocument h input hown, Context.isBookkeeping_eq_false_iff.mpr hkey]
    rfl
  constructor
  · exact hexpanded
  · intro key hkey hown
    rw [hexpanded key hkey hown, Environment.map_expand_eq_self_iff]
  · intro target
    rw [Context.jumpCount, (start_partDocument h input).2]
    rfl
  · intro target hown
    rw [get?_start_partDocument h input hown, Context.isBookkeeping_jumpKey target]
    rfl

/-- A setup without steps is not run, hence the premise. -/
theorem runSetup_of_build {suite : Suite} {setup : Pipeline} (hsetup : suite.setup ≠ [])
    (h : b.build (partDocument "setup" suite.setup suite.context) = .ok setup) :
    b.runSetup suite = some (.ofRun "setup" (setup.run [] [])) := by
  rw [runSetup, if_neg (by simpa using hsetup), b.runPart_of_build _ _ _ _ h]

/-- The teardown asks for no success: it runs after a failed setup as well. -/
theorem runTeardown_of_build {suite : Suite} {shared : Record} (hteardown : suite.teardown ≠ [])
    (h : b.build (partDocument "teardown" suite.teardown shared) = .ok p) :
    b.runTeardown suite shared = some (.ofRun "teardown" (p.run [] [])) := by
  rw [runTeardown, if_neg (by simpa using hteardown), b.runPart_of_build _ _ _ _ h]

/-- A setup that ran shares the context of its result. -/
theorem sharedContext_ofRun (suite : Suite) (name : String) (done : Pipeline × RunResult) :
    sharedContext suite (some (.ofRun name done)) = Context.withoutBookkeeping done.2.context :=
  rfl

/-- After a setup that succeeds a test runs. -/
theorem runTest_of_build {setup : Part} (hsuccess : setup.report.success = true) {shared : Record}
    {test : TestCase} (h : b.build (partDocument test.name test.pipeline
      (Table.overlay shared test.context)) = .ok p) :
    b.runTest shared (setupError? (some setup)) test = .ofRun test.name (p.run test.input []) := by
  rw [setupError?, Option.bind_some, if_pos hsuccess, runTest, b.runPart_of_build _ _ _ _ h]

end Workbench

/-- **What a setup hands over.** In a suite whose setup was built, every test that was built runs
if the setup succeeds, and the teardown runs in any case. Under each name that the test gives no
value of its own, either begins with the value that the setup left, its texts replaced from the
environment once more: so with exactly this value unless one of its texts asks for a variable that
is set to another text. No counter of the setup is seen. -/
theorem setup_hands_over (b : Workbench) (suite : Suite) (setup : Pipeline)
    (hsetup : suite.setup ≠ [])
    (hbuilt : b.build (Workbench.partDocument "setup" suite.setup suite.context) = .ok setup) :
    let left := (setup.run [] []).1.state.context
    let shared := Workbench.sharedContext suite (b.runSetup suite)
    let report := (b.runSuite suite).1
    report.setup = some (Part.ofRun "setup" (setup.run [] [])).report ∧
    ((setup.run [] []).2.success = true → ∀ (i : Nat) (test : TestCase) (p : Pipeline),
      suite.tests[i]? = some test →
      b.build (Workbench.partDocument test.name test.pipeline
        (Table.overlay shared test.context)) = .ok p →
      report.tests[i]? = some (Part.ofRun test.name (p.run test.input [])).report ∧
      Context.Inherits b.environment left test.context (p.start test.input []).context) ∧
    ∀ p : Pipeline, suite.teardown ≠ [] →
      b.build (Workbench.partDocument "teardown" suite.teardown shared) = .ok p →
      report.teardown = some (Part.ofRun "teardown" (p.run [] [])).report ∧
      Context.Inherits b.environment left [] (p.start [] []).context := by
  intro left shared report
  have hpart := Workbench.runSetup_of_build hsetup hbuilt
  have hshared : shared = Context.withoutBookkeeping left.toRecord := by
    show Workbench.sharedContext suite (b.runSetup suite) = _
    rw [hpart, Workbench.sharedContext_ofRun, Pipeline.context_run]
  refine ⟨?_, ?_, ?_⟩
  · show (b.runSetup suite).map Part.report = _
    rw [hpart]
    rfl
  · intro hsuccess i test p htest hp
    constructor
    · show ((suite.tests.map (b.runTest shared (Workbench.setupError? (b.runSetup suite)))).map
        Part.report)[i]? = _
      rw [hpart, List.getElem?_map, List.getElem?_map, htest]
      exact congrArg (some ∘ Part.report) (Workbench.runTest_of_build hsuccess hp)
    · rw [hshared] at hp
      exact Workbench.inherits_of_build hp test.input
  · intro p hteardown hp
    constructor
    · show (b.runTeardown suite shared).map Part.report = _
      rw [Workbench.runTeardown_of_build hteardown hp]
      rfl
    · have hown : Table.overlay shared [] = shared := rfl
      rw [← hown, hshared] at hp
      exact Workbench.inherits_of_build hp []

/-! ## A variable that asks for another -/

/-- The standard blocks, and a variable whose text asks for another variable. -/
def forwardingWorkbench : Workbench where
  registry := Registry.standard
  environment := fun name =>
    if name = "A" then some "${env.B}" else if name = "B" then some "x" else none

/-- A pause before, as, and after the only test. -/
def threePauses : Suite where
  context := [("key", .str "${env.A}"), ("ready", .bool true)]
  setup := [{ block := "delay" }]
  tests := [{ name := "pause", context := [("own", .null)], pipeline := [{ block := "delay" }] }]
  teardown := [{ block := "delay" }]

def pauseDocument (name : String) (context : Record) : Document :=
  Workbench.partDocument name [{ block := "delay" }] context

def builtPause (name : String) (context : Record) : Pipeline where
  steps := [{ id := "delay", block := Blocks.delay }]
  state := { context := forwardingWorkbench.initialContext (pauseDocument name context) }

theorem build_pauseDocument (name : String) (context : Record) :
    forwardingWorkbench.build (pauseDocument name context) = .ok (builtPause name context) :=
  rfl

/-- A pause leaves the context that it begins with. -/
theorem run_builtPause (name : String) (context : Record) :
    ((builtPause name context).run [] []).1.state.context =
        (builtPause name context).state.context ∧
      ((builtPause name context).run [] []).2.success = true := by
  have hrun : (builtPause name context).run [] [] = (builtPause name context).runFor 1 [] [] :=
    Pipeline.runFor_congr (Machine.run_eq_of_finished (Nat.le_of_ble_eq_true rfl) rfl)
  rw [hrun]
  exact ⟨rfl, rfl⟩

/-- The setup leaves the text of the first variable, and the test and the teardown begin with that
of the second. A value that asks for nothing is handed over as it is. -/
theorem threePauses_hands_over :
    let left := ((builtPause "setup" threePauses.context).run [] []).1.state.context
    let shared := Workbench.sharedContext threePauses (forwardingWorkbench.runSetup threePauses)
    let test := (builtPause "pause" (Table.overlay shared [("own", .null)])).start [] []
    let teardown := (builtPause "teardown" shared).start [] []
    (∀ name context, forwardingWorkbench.build (pauseDocument name context) =
      .ok (builtPause name context)) ∧
    left.get? "key" = some (.str "${env.B}") ∧
    test.context.get? "key" = some (.str "x") ∧ teardown.context.get? "key" = some (.str "x") ∧
    test.context.get? "ready" = left.get? "ready" ∧
    teardown.context.get? "ready" = left.get? "ready" := by
  intro left shared test teardown
  obtain ⟨-, htests, hteardown⟩ := setup_hands_over forwardingWorkbench threePauses
    (builtPause "setup" threePauses.context) (List.cons_ne_nil _ _) (build_pauseDocument _ _)
  obtain ⟨-, hfirst⟩ := htests (run_builtPause _ _).2 0 _
    (builtPause "pause" (Table.overlay shared [("own", .null)])) rfl (build_pauseDocument _ _)
  obtain ⟨-, hlast⟩ := hteardown (builtPause "teardown" shared) (List.cons_ne_nil _ _)
    (build_pauseDocument _ _)
  have hleft : ∀ key, left.get? key =
      (Table.find? threePauses.context key).map forwardingWorkbench.environment.expand := by
    intro key
    show Context.get? (Pipeline.state (Prod.fst _)).context key = _
    rw [(run_builtPause "setup" threePauses.context).1, ← Environment.find?_expandFields]
    rfl
  have hplain : Context.IsPlainName "key" ∧ Context.IsPlainName "ready" :=
    ⟨Context.isBookkeeping_eq_false_iff.mp (by decide +kernel),
      Context.isBookkeeping_eq_false_iff.mp (by decide +kernel)⟩
  have hkey : left.get? "key" = some (.str "${env.B}") := by
    rw [hleft, show Table.find? threePauses.context "key" = some (.str "${env.A}") from rfl,
      Option.map_some, Environment.expand]
    exact congrArg (some ∘ Json.str) (by decide +kernel)
  have hready : left.get? "ready" = some (.bool true) := by
    rw [hleft, show Table.find? threePauses.context "ready" = some (.bool true) from rfl]
    simp [Environment.expand]
  have hagain : (left.get? "key").map forwardingWorkbench.environment.expand =
      some (.str "x") := by
    rw [hkey, Option.map_some, Environment.expand]
    exact congrArg (some ∘ Json.str) (by decide +kernel)
  have hkept : ∀ value, left.get? "ready" = some value →
      ∀ text ∈ value.texts, forwardingWorkbench.environment.expandText text = text := by
    intro value hvalue
    obtain rfl := Option.some.inj (hready.symm.trans hvalue)
    simp [Json.texts]
  exact ⟨build_pauseDocument, hkey, (hfirst.expanded "key" hplain.1 rfl).trans hagain,
    (hlast.expanded "key" hplain.1 rfl).trans hagain,
    (hfirst.unchanged_iff "ready" hplain.2 rfl).mpr hkept,
    (hlast.unchanged_iff "ready" hplain.2 rfl).mpr hkept⟩

end StepPipeline
