import StepPipeline.Cli.Response
import StepPipeline.Proofs.Cli.Assignments
import StepPipeline.Proofs.Document.Building
import StepPipeline.Proofs.Document.Reading
import StepPipeline.Proofs.Json.RoundTrip
import StepPipeline.Proofs.Store.Merging
import StepPipeline.Proofs.Template.Expansion

/-!
# Overrides are edits of the document

The values of a command line reach the context when a run begins, those of a document when its
pipeline is built, and only the latter are expanded from the environment. A value that asks for no
variable that is set is left alone by that (`expandFields_overlay`), so it makes no difference where
it is written; and as nothing but the context of a pipeline depends on the context of its document
(`Workbench.build_withContext`), the runs begin in one state.

Main statement: `overrides_edit_document`.
-/

namespace StepPipeline

/-- Runs of the same steps that begin in one state are the same. -/
theorem Pipeline.run_eq_of_start {p q : Pipeline} {input initial input' initial' : Record}
    (hsteps : p.steps = q.steps) (hstart : p.start input initial = q.start input' initial') :
    p.run input initial = q.run input' initial' := by
  simp only [run, runFor, hsteps, hstart]

/-- The document with entries written over its context, one after the other. -/
def Document.overwrite (d : Document) (entries : List (String × Json)) : Document :=
  { d with context := Table.overlay d.context entries }

namespace Environment

/-- No text in the values asks for a variable that is set. -/
def LeavesAlone (env : Environment) (entries : List (String × Json)) : Prop :=
  ∀ e ∈ entries, ∀ text ∈ e.2.texts, ∀ value, ¬env.Sets text value

variable {env : Environment}

theorem sorted_expandFields {fields : Record} (h : Table.Sorted fields) :
    Table.Sorted (env.expandFields fields) := by
  rw [Table.sorted_iff_keys] at h ⊢
  simpa [Table.keys, expandFields, Function.comp_def] using h

/-- Such values can be written before the expansion or behind it. -/
theorem expandFields_overlay {entries : List (String × Json)} (h : env.LeavesAlone entries)
    (fields : Record) :
    env.expandFields (Table.overlay fields entries) =
      Table.overlay (env.expandFields fields) entries := by
  have hentries : Table.mapValues env.expand entries = entries := by
    refine map_eq_self_iff.mpr fun e he => ?_
    have hvalue : env.expand e.2 = e.2 :=
      expand_eq_self_iff.mpr fun text htext => expandText_of_not_sets (h e he text htext)
    rw [hvalue]
  have hoverlay := Table.mapValues_overlay env.expand fields entries
  rwa [hentries] at hoverlay

end Environment

namespace Workbench

variable {b : Workbench} {d : Document} {entries : List (String × Json)}

theorem ordered_initialContext (b : Workbench) (hd : Table.Sorted d.context) :
    (b.initialContext d).Ordered :=
  Context.ordered_ofRecord (Environment.sorted_expandFields hd) _

/-- Both documents are built to the same steps, and the two runs start in the same state. -/
theorem exists_start_overwrite (hd : Table.Sorted d.context)
    (h : b.environment.LeavesAlone entries) {p : Pipeline} (hbuild : b.build d = .ok p) :
    ∃ q, b.build (d.overwrite entries) = .ok q ∧ p.steps = q.steps ∧
      ∀ input, p.start input (Table.ofList entries) = q.start input [] := by
  have hsorted : Table.Sorted (b.environment.expandFields d.context) :=
    (b.ordered_initialContext hd).values
  obtain ⟨-, -, hstate⟩ := build_eq_ok hbuild
  have hedited := build_withContext b d (Table.overlay d.context entries)
  rw [hbuild] at hedited
  refine ⟨_, hedited, rfl, fun input => ?_⟩
  -- Expansion goes past the entries, and a table of them overlays like their list.
  simp only [Pipeline.start, hstate, initialContext, Context.merge, Context.ofRecord,
    Environment.expandFields_overlay h, Table.overlay_ofList hsorted, Table.overlay_nil]

/-- To lay a table of entries over the context of a run is to write them over that of the
document. -/
theorem map_run_build (hd : Table.Sorted d.context) (h : b.environment.LeavesAlone entries)
    (input : Record) :
    (b.build d).map (fun p => p.run input (Table.ofList entries)) =
      (b.build (d.overwrite entries)).map fun p => p.run input [] := by
  cases hbuild : b.build d with
  | error f =>
      -- The steps decide whether a build fails, and they are the same in both documents.
      have hedited := build_withContext b d (Table.overlay d.context entries)
      rw [hbuild] at hedited
      rw [show b.build (d.overwrite entries) = .error f from hedited]
      simp only [Except.map]
  | ok p =>
      obtain ⟨q, hq, hsteps, hstart⟩ := exists_start_overwrite hd h hbuild
      simp only [hq, Except.map, Pipeline.run_eq_of_start hsteps (hstart input)]

end Workbench

namespace Cli

/-- The entries that a run lays over the context; to go on after faults is the last of them. -/
def RunOptions.entries (options : RunOptions) : List (String × Json) :=
  options.assignments ++
    if options.continueOnError then [(StepPipeline.continueOnError, .bool true)] else []

def RunOptions.bare (options : RunOptions) : RunOptions :=
  { options with assignments := [], continueOnError := false }

theorem overrides_eq (options : RunOptions) : overrides options = Table.ofList options.entries := by
  unfold overrides RunOptions.entries
  cases options.continueOnError with
  | false => simp
  | true => simp [Table.ofList, Table.overlay]

theorem overrides_bare (options : RunOptions) : overrides options.bare = [] := rfl

variable {options : RunOptions} {env : Environment}

/-- The value of the flag asks for nothing. -/
theorem leavesAlone_entries (h : env.LeavesAlone options.assignments) :
    env.LeavesAlone options.entries := by
  unfold RunOptions.entries
  refine List.forall_mem_append.mpr ⟨h, ?_⟩
  split
  · refine List.forall_mem_singleton.mpr fun text htext => ?_
    simp [Json.texts] at htext
  · exact List.forall_mem_nil _

/-- A response shows nothing of the overrides but the run. -/
theorem runResponse_bare (name : String) (description : Option String) (options : RunOptions)
    (p : Pipeline) (r : RunResult) :
    runResponse name description options.bare p r = runResponse name description options p r :=
  rfl

/-- The response to a run depends on the runs of what is built from the document. -/
theorem runDocument_eq (env : Environment) (path : String) (options : RunOptions) (d : Document) :
    runDocument env path options d =
      match readInput options.input with
      | .error message => .failed message
      | .ok input =>
        match ((workbench env).build d).map fun p => p.run input (overrides options) with
        | .error _ => .failed ("failed to build " ++ path)
        | .ok (ended, result) =>
          runResponse (d.name.getD path) d.description options ended result := by
  unfold runDocument
  cases readInput options.input with
  | error message => rfl
  | ok input =>
      dsimp only
      cases (workbench env).build d <;> simp only [Except.map]

theorem runDocument_overwrite {d : Document} (hd : Table.Sorted d.context)
    (h : env.LeavesAlone options.assignments) (path : String) : runDocument env path options d =
      runDocument env path options.bare (d.overwrite options.entries) := by
  have hruns := (workbench env).map_run_build hd (leavesAlone_entries h)
  rw [runDocument_eq, runDocument_eq, overrides_bare, overrides_eq]
  simp only [hruns, runResponse_bare]
  rfl

/-- **Overrides are edits of the document.** A run takes its overrides from its command line: the
assignments in their order and, whether or not it is given last, the flag to continue after faults
behind all of them. An assignment is cut at its first equals sign, and its value is the JSON value
of its text or else the text. If no value asks for a variable that is set, then whatever the blocks
are, the run is that of the document with these entries written over its context, where the last one
of a name is seen; and so the response to the command line is that to the edited document without
overrides. -/
theorem overrides_edit_document :
    (∀ text key value, assignment? text = some (key, value) ↔ ∃ given,
      text = key ++ "=" ++ given ∧ key ≠ "" ∧ '=' ∉ key.toList ∧
      value = (Json.parse? given).getD (.str given)) ∧
    (∀ arguments path options, Command.read arguments = .ok (.run path options) →
      ∃ before rest, arguments = before ++ CommandName.run.text :: rest ∧
        (∀ argument ∈ before, CommandName.ofText? argument = none) ∧ options.GivenBy rest) ∧
    (∀ (b : Workbench) (d : Document) (options : RunOptions) (input : Record),
      Table.Sorted d.context →
      b.environment.LeavesAlone options.assignments →
      ((b.build d).map fun p => p.run input (overrides options)) =
        (b.build (d.overwrite options.entries)).map fun p => p.run input []) ∧
    (∀ (d : Document) (options : RunOptions) (key : String),
      Table.find? (d.overwrite options.entries).context key =
        (Table.find? options.entries.reverse key).or (Table.find? d.context key)) ∧
    ∀ env file arguments path options d, Command.read arguments = .ok (.run path options) →
      (file path).bind Document.parse? = some d →
      env.LeavesAlone options.assignments →
      respond env file arguments =
        runDocument env path options.bare (d.overwrite options.entries) := by
  refine ⟨fun text key value => assignment?_eq_some_iff, fun arguments path options =>
    Command.givenBy_of_read, fun b d options input hd h => ?_, fun d options key => ?_,
    fun env file arguments path options d hread hfile h => ?_⟩
  · rw [overrides_eq]
    exact b.map_run_build hd (leavesAlone_entries h) input
  · exact Table.find?_overlay_reverse d.context options.entries key
  · obtain ⟨text, -, htext⟩ := Option.bind_eq_some_iff.mp hfile
    rw [← runDocument_overwrite (Document.sorted_context_of_parse? htext) h path, respond, hread]
    show withDocument path (file path) _ = _
    rw [withDocument, hfile]

def greet : Document where
  context := [("host", .str "${env.HOST}"), ("who", .str "${env.USER}")]
  pipeline := [{ block := "delay" }]

/-- One name is assigned twice, and the flag stands in front of an assignment that contradicts it. -/
def greetArguments : List String :=
  ["-v", "run", "greet.json", "--set", "who=[1]", "--continue-on-error", "--set=who=x=y",
    "--set", "continueOnError=no"]

def greetOptions : RunOptions where
  assignments := [("who", .arr [.nat 1]), ("who", .str "x=y"), ("continueOnError", .str "no")]
  continueOnError := true

theorem toJson_greet : greet.toJson = .obj [
    ("context", .obj [("host", .str "${env.HOST}"), ("who", .str "${env.USER}")]),
    ("pipeline", .arr [.obj [("block", .str "delay")]])] := rfl

theorem readable_greet : greet.toJson.Readable Written.maxDepth := by
  rw [toJson_greet]
  have hsorted : ∀ j k : String, ∀ v w : Json, j < k → Table.Sorted [(j, v), (k, w)] :=
    fun j k v w h => Table.sorted_iff_keys.mpr (by simpa [Table.keys] using h)
  refine .obj (hsorted _ _ _ _ (by decide)) ?_
  refine List.forall_mem_cons.mpr ⟨.obj (hsorted _ _ _ _ (by decide)) ?_,
    List.forall_mem_singleton.mpr (.arr ?_)⟩
  · exact List.forall_mem_cons.mpr ⟨.str, List.forall_mem_singleton.mpr .str⟩
  · refine List.forall_mem_singleton.mpr (.obj (List.pairwise_singleton _ _) ?_)
    exact List.forall_mem_singleton.mpr .str

theorem parse?_greet : Document.parse? greet.toJson.compact = some greet := by
  rw [Document.parse?, Shape.parse?, Written.read_compact readable_greet, toJson_greet]
  simp only [Written.ofJson, List.map_cons, List.map_nil]
  rfl

theorem assignment?_greet : assignment? "who=[1]" = some ("who", .arr [.nat 1]) ∧
    assignment? "who=x=y" = some ("who", .str "x=y") ∧
    assignment? "continueOnError=no" = some ("continueOnError", .str "no") := by
  have hlist : Json.parse? "[1]" = some (.arr [.nat 1]) := by
    rw [show "[1]" = (Json.arr [.nat 1]).compact by simp [Json.compact, Json.nat]; rfl]
    refine Json.parse?_compact (.arr (List.forall_mem_singleton.mpr (.int ?_)))
    decide
  have hword : Json.parse? "x=y" = none := by
    rw [Json.parse?, Written.read_eq, show "x=y".toList = ['x', '=', 'y'] from rfl,
      Written.front?_scalar (by decide)]
    rfl
  have hno : Json.parse? "no" = none := by
    rw [Json.parse?, Written.read_eq, show "no".toList = ['n', 'o'] from rfl,
      Written.front?_scalar (by decide)]
    rfl
  refine ⟨?_, ?_, ?_⟩
  · exact assignment?_eq_some_iff.mpr ⟨"[1]", rfl, by decide, by decide, by rw [hlist]; rfl⟩
  · exact assignment?_eq_some_iff.mpr ⟨"x=y", rfl, by decide, by decide, by rw [hword]; rfl⟩
  · exact assignment?_eq_some_iff.mpr ⟨"no", rfl, by decide, by decide, by rw [hno]; rfl⟩

theorem read_greetArguments :
    Command.read greetArguments = .ok (.run "greet.json" greetOptions) := by
  have hitems : attachValues (items CommandName.run.options (greetArguments.drop 2)) =
      [.word "greet.json", .option .set (some "who=[1]"), .option .continueOnError none,
        .option .set (some "who=x=y"), .option .set (some "continueOnError=no")] := by
    decide +kernel
  obtain ⟨hlist, hword, hno⟩ := assignment?_greet
  have hread : CommandName.run.read (greetArguments.drop 2) =
      .ok (.run "greet.json" greetOptions) := by
    rw [CommandName.read, Given.read, hitems]
    simp only [List.foldlM_cons, List.foldlM_nil, Given.add, hlist, hword, hno]
    rfl
  exact hread

theorem greet_overridden :
    let env : Environment := fun _ => some "set"
    let file := fun _ : String => some greet.toJson.compact
    Command.read greetArguments = .ok (.run "greet.json" greetOptions) ∧
    Document.parse? greet.toJson.compact = some greet ∧
    (∃ p, (workbench env).build greet = .ok p) ∧
    env.LeavesAlone greetOptions.assignments ∧
    respond env file greetArguments = runDocument env "greet.json" {}
      { greet with context := [("continueOnError", .bool true), ("host", .str "${env.HOST}"),
        ("who", .str "x=y")] } := by
  intro env file
  have hfree : env.LeavesAlone greetOptions.assignments := by
    have htexts : ∀ text ∈ ["x=y", "no"], Environment.requested? text = none := by
      decide +kernel
    intro e he text htext value hsets
    have hmem : text ∈ ["x=y", "no"] := by
      simp only [greetOptions, List.mem_cons, List.not_mem_nil, or_false] at he
      rcases he with rfl | rfl | rfl
      · simp [Json.texts, Json.nat] at htext
      · simpa [Json.texts] using Or.inl htext
      · simpa [Json.texts] using Or.inr htext
    rw [Environment.sets_iff, htexts text hmem] at hsets
    cases hsets
  obtain ⟨-, -, -, -, hrespond⟩ := overrides_edit_document
  refine ⟨read_greetArguments, parse?_greet, ⟨_, rfl⟩, hfree, ?_⟩
  exact hrespond env file greetArguments "greet.json" greetOptions greet read_greetArguments
    parse?_greet hfree

end Cli

end StepPipeline
