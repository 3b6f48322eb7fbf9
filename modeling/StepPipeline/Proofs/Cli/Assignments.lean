import StepPipeline.Cli.Command
import StepPipeline.Proofs.Computations

/-!
# What a command line assigns

Arguments are taken up item by item, and an item either ends the reading or adds one thing to what
was given before (`Given.Adds`). So what a run was given can be read off the items behind its name
(`RunOptions.GivenBy`): the assignments are those of `--set`, one by one and in their order, and a
flag is on exactly if its option is among the items. An assignment is cut at its first equals sign
(`assignment?_eq_some_iff`).
-/

namespace StepPipeline.Cli

/-! ## One assignment -/

/-- Where a text is cut, the first equals sign stands. -/
theorem eq_append_of_cut {cs rest : List Char} {c : Char}
    (h : cs.dropWhile (· ≠ '=') = c :: rest) :
    cs = cs.takeWhile (· ≠ '=') ++ '=' :: rest ∧ '=' ∉ cs.takeWhile (· ≠ '=') := by
  have hcs := List.takeWhile_append_dropWhile (p := (· ≠ '=')) (l := cs)
  have hnot := List.head?_dropWhile_not (· ≠ '=') cs
  rw [h] at hcs hnot
  obtain rfl : c = '=' := by simpa using hnot
  refine ⟨hcs.symm, fun hmem => ?_⟩
  simpa using List.all_eq_true.mp List.all_takeWhile '=' hmem

/-- A name is what is in front of the first equals sign, and the value is behind it: what it denotes
if it is a JSON text, or else itself. -/
theorem assignment?_eq_some_iff {text key : String} {value : Json} :
    assignment? text = some (key, value) ↔ ∃ given, text = key ++ "=" ++ given ∧ key ≠ "" ∧
      '=' ∉ key.toList ∧ value = (Json.parse? given).getD (.str given) := by
  rw [assignment?]
  dsimp only
  constructor
  · intro h
    split at h
    · next c given hrest =>
      obtain ⟨htext, hfree⟩ := eq_append_of_cut hrest
      split at h
      · cases h
      · next hname =>
        obtain ⟨rfl, rfl⟩ := Prod.mk.inj (Option.some.inj h)
        rw [String.toList_ofList]
        refine ⟨String.ofList given, ?_, fun hempty => hname ?_, hfree, rfl⟩
        · apply String.toList_inj.mp
          simp only [String.toList_append, String.toList_ofList, List.append_assoc]
          exact htext
        · rw [← String.toList_inj, String.toList_ofList] at hempty
          exact List.isEmpty_iff.mpr hempty
    · cases h
  · rintro ⟨given, rfl, hkey, hfree, rfl⟩
    have htext : (key ++ "=" ++ given).toList = key.toList ++ '=' :: given.toList := by simp
    have hne : key.toList.isEmpty = false := by
      rw [List.isEmpty_eq_false_iff]
      exact fun hempty => hkey (String.toList_inj.mp hempty)
    obtain ⟨htake, hdrop⟩ := Text.cut_append hfree given.toList
    rw [htext, htake, hdrop]
    simp [hne]

/-! ## Items -/

def Item.setText? : Item → Option String
  | .option .set value => value
  | _ => none

namespace Given

/-- What was given after an item that did not end the reading. -/
inductive Adds (g : Given) : Item → Given → Prop where
  | word {text : String} : Adds g (.word text) { g with path := some text }
  | operand {text : String} : Adds g (.operand text) { g with path := some text }
  | input {text : String} : Adds g (.option .input (some text)) { g with input := some text }
  | set {text : String} {a : String × Json} : assignment? text = some a →
      Adds g (.option .set (some text)) { g with assignments := g.assignments ++ [a] }
  | flag {o : OptionName} {value : Option String} : o.takesValue = false →
      Adds g (.option o value) { g with flags := o :: g.flags }

variable {g g' : Given}

theorem adds_of_add {item : Item} (h : g.add item = .ok g') : g.Adds item g' := by
  unfold add at h
  split at h
  · cases h
  · split at h
    · cases h
    · obtain rfl := Except.ok.inj h
      exact .word
  · split at h
    · cases h
    · obtain rfl := Except.ok.inj h
      exact .operand
  · cases h
  · cases h
  · split at h
    · cases h
    · obtain rfl := Except.ok.inj h
      exact .input
  · split at h
    · next ha =>
      obtain rfl := Except.ok.inj h
      exact .set ha
    · cases h
  · next o value _ _ _ _ =>
    split at h
    · cases h
    · next hnew =>
      rw [Bool.or_eq_true, not_or] at hnew
      obtain rfl := Except.ok.inj h
      exact .flag (Bool.eq_false_iff.mpr hnew.1)

theorem Adds.mem_flags {item : Item} (h : g.Adds item g') {o : OptionName}
    (ho : o.takesValue = false) :
    o ∈ g'.flags ↔ o ∈ g.flags ∨ ∃ value, item = .option o value := by
  cases h with
  | flag => simp [or_comm, eq_comm]
  | set | input =>
      refine ⟨.inl, ?_⟩
      rintro (hmem | ⟨_, ⟨⟩⟩)
      · exact hmem
      · cases ho
  | _ => simp

/-- Whatever the items are, the texts of `--set` among them become assignments in their order. -/
theorem assignments_of_foldlM {taken : List Item} (h : taken.foldlM add g = .ok g') :
    ∃ entries, (taken.filterMap Item.setText?).mapM assignment? = some entries ∧
      g'.assignments = g.assignments ++ entries := by
  -- What is given so far grows with the items, the assignments at their end.
  induction taken generalizing g with
  | nil =>
      obtain rfl := Except.ok.inj h
      exact ⟨[], rfl, (List.append_nil _).symm⟩
  | cons item rest ih =>
      rw [List.foldlM_cons] at h
      obtain ⟨g₁, hadd, hrest⟩ := Except.bind_eq_ok h
      obtain ⟨entries, hentries, hassignments⟩ := ih hrest
      cases adds_of_add hadd with
      | @set text a ha =>
          refine ⟨a :: entries, ?_, ?_⟩
          · show (text :: rest.filterMap Item.setText?).mapM assignment? = _
            rw [List.mapM_cons, ha, hentries]
            rfl
          · rw [hassignments, List.append_assoc, List.singleton_append]
      -- An option that takes no value is not `--set`.
      | @flag o value ho =>
          refine ⟨entries, ?_, hassignments⟩
          have hnone : (Item.option o value).setText? = none := by
            cases o <;> first | rfl | cases ho
          rw [List.filterMap_cons_none hnone, hentries]
      | _ => exact ⟨entries, hentries, hassignments⟩

/-- A flag is on exactly if its option is among the items, wherever it stands. -/
theorem mem_flags_of_foldlM {taken : List Item} (h : taken.foldlM add g = .ok g')
    {o : OptionName} (ho : o.takesValue = false) :
    o ∈ g'.flags ↔ o ∈ g.flags ∨ ∃ value, .option o value ∈ taken := by
  induction taken generalizing g with
  | nil =>
      obtain rfl := Except.ok.inj h
      simp
  | cons item rest ih =>
      rw [List.foldlM_cons] at h
      obtain ⟨g₁, hadd, hrest⟩ := Except.bind_eq_ok h
      rw [ih hrest, (adds_of_add hadd).mem_flags ho, or_assoc, ← exists_or]
      simp only [List.mem_cons, eq_comm]

end Given

/-! ## Commands -/

namespace CommandName

theorem eq_text_of_ofText? {argument : String} {name : CommandName}
    (h : ofText? argument = some name) : argument = name.text := by
  have hfound := List.find?_some (p := fun n : CommandName => n.text == argument) h
  exact (beq_iff_eq.mp hfound).symm

/-- A command is read from its options only if they name a file. -/
theorem read_eq_ok {name : CommandName} {arguments : List String} {command : Command}
    (h : name.read arguments = .ok command) : ∃ given path,
      Given.read name.options arguments = .ok given ∧ given.path = some path ∧
      name.withArguments path given = command := by
  obtain ⟨given, hgiven, h⟩ := Except.bind_eq_ok h
  split at h
  · next path hpath => exact ⟨given, path, hgiven, hpath, Except.ok.inj h⟩
  · cases h

end CommandName

namespace Command

/-- Of a command line, the first argument that names a command decides, and what is behind it. -/
theorem readAfter_eq_ok {given : Given} {arguments : List String} {command : Command}
    (h : readAfter given arguments = .ok command) :
    ∃ (before : List String) (name : CommandName) (rest : List String),
      arguments = before ++ name.text :: rest ∧
      (∀ argument ∈ before, CommandName.ofText? argument = none) ∧
      name.read rest = .ok command := by
  induction arguments generalizing given with
  | nil => cases h
  | cons argument rest ih =>
      rw [readAfter] at h
      split at h
      · -- The first argument that names a command.
        next name hname =>
        exact ⟨[], name, rest, by rw [CommandName.eq_text_of_ofText? hname]; rfl,
          List.forall_mem_nil _, h⟩
      · -- An argument in front of it is read for what it says, and the search goes on behind it.
        next hnone =>
        split at h
        · cases h
        split at h
        · cases h
        · obtain ⟨given', -, hrest⟩ := Except.bind_eq_ok h
          obtain ⟨before, name, tail, rfl, hbefore, hread⟩ := ih hrest
          exact ⟨argument :: before, name, tail, rfl,
            List.forall_mem_cons.mpr ⟨hnone, hbefore⟩, hread⟩

end Command

/-- What the arguments behind the name of a run give it to lay over the context. -/
structure RunOptions.GivenBy (options : RunOptions) (arguments : List String) : Prop where
  assignments : ((attachValues (items CommandName.run.options arguments)).filterMap
    Item.setText?).mapM assignment? = some options.assignments
  continueOnError : options.continueOnError = true ↔
    ∃ value, .option .continueOnError value ∈
      attachValues (items CommandName.run.options arguments)

theorem Command.givenBy_of_read {arguments : List String} {path : String} {options : RunOptions}
    (h : Command.read arguments = .ok (.run path options)) : ∃ before rest,
      arguments = before ++ CommandName.run.text :: rest ∧
      (∀ argument ∈ before, CommandName.ofText? argument = none) ∧ options.GivenBy rest := by
  obtain ⟨before, name, rest, harguments, hbefore, hread⟩ := Command.readAfter_eq_ok h
  obtain ⟨given, path', hgiven, -, hcommand⟩ := CommandName.read_eq_ok hread
  cases name with
  | run =>
      obtain ⟨rfl, rfl⟩ := Command.run.inj hcommand
      refine ⟨before, rest, harguments, hbefore, ?_, ?_⟩
      · obtain ⟨entries, hentries, hassignments⟩ := Given.assignments_of_foldlM hgiven
        rw [hentries]
        exact congrArg some hassignments.symm
      · have hflag := Given.mem_flags_of_foldlM hgiven (o := .continueOnError) rfl
        simpa using hflag
  | _ => cases hcommand

end StepPipeline.Cli
