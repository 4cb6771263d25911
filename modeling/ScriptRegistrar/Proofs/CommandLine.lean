import ScriptRegistrar.CommandLine.Basic
import ScriptRegistrar.Proofs.Pass.Failure

namespace ScriptRegistrar

/-- What a change does to the disk does not depend on the report that it is added to. -/
theorem Change.apply_above (change : Change) (disk : Disk) (report : Report) :
    change.apply ⟨disk, report⟩ =
      (⟨(change.apply ⟨disk, {}⟩).1.disk,
        { report with
          written := report.written ++ (change.apply ⟨disk, {}⟩).1.report.written
          deleted := report.deleted ++ (change.apply ⟨disk, {}⟩).1.report.deleted }⟩,
        (change.apply ⟨disk, {}⟩).2) := by
  cases change with
  | deleteStale file =>
    simp only [apply, Progress.delete]
    split
    · simp [Report.addDeleted]
    · simp
  | write base file =>
    simp only [apply, Progress.write]
    split
    · simp [Progress.setDisk]
    · split
      · simp [Progress.setDisk]
      · simp [Report.addWritten]
  | cleanScripts directory => simp [apply, Report.addDeleted]

def Outcome.ofRun : Progress × Option GenerationError → Outcome
  | (p, none) => ⟨.ok p.report, p.disk⟩
  | (p, some e) => ⟨.error e, p.disk⟩

theorem Pass.run_eq_ofRun (pass : Pass) (disk : Disk) :
    pass.run disk = .ofRun
      (Change.run ⟨disk, { classes := pass.classes, surviving := pass.surviving }⟩
        pass.changes) := by
  unfold run
  dsimp only
  split
  · next ended => rw [ended, Outcome.ofRun]
  · next ended => rw [ended, Outcome.ofRun]

namespace Step

def change? : Step → Option Change
  | .change made => some made
  | .note _ => none

theorem filterMap_change? (changes : List Change) :
    (changes.map Step.change).filterMap change? = changes := by
  rw [List.filterMap_map]
  exact List.filterMap_some

end Step

theorem Pass.generateSteps_changes (settings : Settings) (graph : Graph) (pass : Pass) :
    (Pass.generateSteps settings graph pass).filterMap Step.change? = pass.changes := by
  unfold generateSteps
  dsimp only
  rw [List.filterMap_append, List.filterMap_append, Step.filterMap_change?,
    Step.filterMap_change?]
  split
  · rw [List.filterMap_cons_none (by rfl), List.filterMap_nil, List.append_nil,
      List.take_append_drop]
  · rw [List.filterMap_nil, List.append_nil, List.take_append_drop]

namespace CommandLine

/-- The command ends as a pass does and leaves the same disk. -/
structure EndsAs (ran : Result × Disk) (outcome : Outcome) : Prop where
  report : ran.1.report = outcome.result.mapError .pass
  disk : ran.2 = outcome.disk

theorem change_onDisk (change : Change) (disk : Disk) :
    (diskWorkplace.change change).run disk =
      pure (match (change.apply ⟨disk, {}⟩).2 with
        | none => .ok (change.apply ⟨disk, {}⟩).1.report
        | some e => .error e, (change.apply ⟨disk, {}⟩).1.disk) :=
  rfl

/-- Each step reports on its own, and the reports are put together on the way. -/
theorem takeSteps_onDisk (steps : List Step) (log : List LogEvent) (report : Report) (disk : Disk) :
    EndsAs ((takeSteps diskWorkplace log report steps).run disk)
      (.ofRun (Change.run ⟨disk, report⟩ (steps.filterMap Step.change?))) := by
  induction steps generalizing log report disk with
  | nil => exact ⟨rfl, rfl⟩
  | cons step rest ih =>
    cases step with
    | note event => exact ih _ _ _
    | change change =>
      rw [List.filterMap_cons_some (by rfl), Change.run, Change.apply_above, takeSteps,
        StateT.run_bind, change_onDisk, pure_bind]
      obtain ⟨p, fault⟩ := change.apply ⟨disk, {}⟩
      cases fault with
      | none => exact ih _ _ _
      | some e => exact ⟨rfl, rfl⟩

/-! ### Tasks -/

namespace Task

theorem run_onDisk {task : Task} (steps : ∀ pass : Pass,
    (task.steps pass).filterMap Step.change? = pass.changes) (outputDir : Path) (disk : Disk) :
    EndsAs ((task.run diskWorkplace outputDir).run disk) (Pass.execute (task.plan disk) disk) := by
  have surveyed : (diskWorkplace.survey (RegistrarFile.root outputDir)).run disk =
      pure (disk, disk) := rfl
  rw [run, StateT.run_bind, surveyed, pure_bind]
  cases task.plan disk with
  | error e => exact ⟨rfl, rfl⟩
  | ok pass =>
    have taken := takeSteps_onDisk (task.steps pass) (task.planEvents disk)
      { classes := pass.classes, surviving := pass.surviving } disk
    rw [steps, ← Pass.run_eq_ofRun] at taken
    simp only [StateT.run_bind, Pass.execute]
    generalize StateT.run (takeSteps diskWorkplace _ _ (task.steps pass)) disk = ended at taken ⊢
    obtain ⟨⟨log, report⟩, after⟩ := ended
    cases report with
    | ok report => exact ⟨taken.report, taken.disk⟩
    | error e => exact taken

theorem generate_onDisk (settings : Settings) (graph : Graph) (disk : Disk) :
    EndsAs (((generate settings graph).run diskWorkplace settings.outputDir).run disk)
      (Pass.generate settings graph disk) :=
  run_onDisk (Pass.generateSteps_changes settings graph) settings.outputDir disk

theorem refresh_onDisk (settings : Settings) (classes : List DottedName) (disk : Disk) :
    EndsAs (((refresh settings classes).run diskWorkplace settings.outputDir).run disk)
      (Pass.refresh settings classes disk) :=
  run_onDisk (fun pass => Step.filterMap_change? pass.changes) settings.outputDir disk

end Task

/-! ### Reading the input -/

/-- `x` changes nothing, and what it gives is `good`. -/
def Reads {α : Type} (good : α → Prop) (x : ExceptT CommandError (StateM Disk) α) : Prop :=
  ∀ disk, ∃ r, x.run.run disk = pure (r, disk) ∧ ∀ a, r = .ok a → good a

namespace Reads

variable {α β : Type} {good : α → Prop} {fine : β → Prop}

theorem pure {a : α} (h : good a) : Reads good (pure a) := fun _ =>
  ⟨.ok a, rfl, fun _ same => Except.ok.inj same ▸ h⟩

theorem throw (e : CommandError) : Reads good (throw e) := fun _ =>
  ⟨.error e, rfl, fun _ same => nomatch same⟩

theorem read? (path : Path) :
    Reads (fun _ => True) (liftM (diskWorkplace.read? path) :
      ExceptT CommandError (StateM Disk) (Option String)) := fun disk =>
  ⟨.ok (disk.readAt? path), rfl, fun _ _ => trivial⟩

theorem bind {x : ExceptT CommandError (StateM Disk) α}
    {f : α → ExceptT CommandError (StateM Disk) β} (first : Reads good x)
    (rest : ∀ a, good a → Reads fine (f a)) : Reads fine (x >>= f) := by
  intro disk
  obtain ⟨r, ran, holds⟩ := first disk
  rw [ExceptT.run_bind, StateT.run_bind, ran, pure_bind]
  cases r with
  | error e => exact throw e disk
  | ok a => exact rest a (holds a rfl) disk

end Reads

theorem OutputOptions.base_reads (options : OutputOptions) :
    Reads (fun _ => True) (options.base diskWorkplace) := by
  unfold base
  split
  · refine (Reads.read? _).bind fun text _ => ?_
    split
    · split
      · exact .pure trivial
      · exact .throw _
    · exact .throw _
  · exact .pure trivial
  · exact .throw _

/-- A task with the directory that it works on. -/
inductive Prepared : Path × Task → Prop
  | generate (settings : Settings) (graph : Graph) :
    Prepared (settings.outputDir, .generate settings graph)
  | refresh (settings : Settings) (classes : List DottedName) :
    Prepared (settings.outputDir, .refresh settings classes)

namespace Invocation

theorem prepare_reads (invocation : Invocation) :
    Reads Prepared (invocation.prepare diskWorkplace) := by
  unfold prepare
  refine invocation.output.base_reads.bind fun base _ => ?_
  dsimp only
  generalize invocation.output.apply base = settings
  have task : Reads (fun task => Prepared (settings.outputDir, task))
      (readTask diskWorkplace settings invocation.command) := by
    unfold readTask
    split
    · exact .pure (.refresh _ _)
    · refine (Reads.read? _).bind fun text _ => ?_
      split
      · split
        · exact .pure (.generate _ _)
        · exact .throw _
      · exact .throw _
  exact task.bind fun task prepared => .pure prepared

/-- Reading the input changes nothing, and what was read decides on the pass that is made. -/
theorem run_onDisk (invocation : Invocation) (disk : Disk) :
    ∃ r, (invocation.prepare diskWorkplace).run.run disk = pure (r, disk) ∧
      match r with
      | .error e => (invocation.run diskWorkplace).run disk = pure (⟨[], .error e⟩, disk)
      | .ok (_, task) =>
        EndsAs ((invocation.run diskWorkplace).run disk) (Pass.execute (task.plan disk) disk) := by
  obtain ⟨r, ran, holds⟩ := invocation.prepare_reads disk
  refine ⟨r, ran, ?_⟩
  rw [run, StateT.run_bind, ran, pure_bind]
  cases r with
  | error e => rfl
  | ok prepared =>
    cases holds prepared rfl with
    | generate settings graph => exact Task.generate_onDisk settings graph disk
    | refresh settings classes => exact Task.refresh_onDisk settings classes disk

end Invocation

namespace Reply

variable {options : LogOptions} {result : Result}

theorem ofResult_code {report : Report} (h : result.report = .ok report) :
    (ofResult options result).code = 0 := by
  unfold ofResult
  rw [h]

theorem ofResult_error {e : CommandError} (h : result.report = .error e) :
    (ofResult options result).error = some ("error: " ++ e.message ++ "\n") := by
  unfold ofResult
  rw [h]

end Reply

/-- A command that fails after it has changed the disk says what was in its way. -/
theorem answer_changed_blocked {environment : Environment} {arguments : List String}
    {disk after : Disk} {reply : Reply}
    (ran : (answer diskWorkplace environment arguments).run disk = (reply, after))
    (failed : reply.code ≠ 0) (changed : after ≠ disk) :
    ∃ path, reply.error =
      some ("error: " ++ (GenerationError.blocked path).message ++ "\n") := by
  unfold answer at ran
  split at ran
  · cases ran
    exact absurd rfl changed
  · next invocation read =>
    rw [StateT.run_bind] at ran
    obtain ⟨r, -, ends⟩ := invocation.run_onDisk disk
    cases r with
    | error e =>
      rw [ends] at ran
      cases ran
      exact absurd rfl changed
    | ok prepared =>
      generalize (invocation.run diskWorkplace).run disk = ended at ran ends
      obtain ⟨result, left⟩ := ended
      cases ran
      have reported := ends.report
      cases settled : (Pass.execute (prepared.2.plan disk) disk).result with
      | ok report =>
        rw [settled] at reported
        exact absurd (Reply.ofResult_code reported) failed
      | error e =>
        rw [settled] at reported
        by_cases free : ∀ path, e ≠ .blocked path
        · -- Anything else is found before the first change.
          have same := Pass.execute_error_unchanged settled free
          exact absurd (ends.disk.trans same) changed
        · obtain ⟨path, rfl⟩ : ∃ path, e = .blocked path := by simpa using free
          exact ⟨path, Reply.ofResult_error reported⟩

end CommandLine

end ScriptRegistrar
