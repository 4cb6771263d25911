import ScriptRegistrar.Proofs.Pass.Failure
import ScriptRegistrar.Proofs.Pass.Incremental
import ScriptRegistrar.Proofs.Pass.Target

/-!
# The same pass twice

The second pass finds registrars that the first one wrote, and none of the files that it deleted.
Yet the same classes survive, so it plans to write the same files.
-/

namespace ScriptRegistrar

open RegistrarFile (root className? place)
open Source (RenderedFile)

namespace Pass

/-! ### What is written once the stale registrars are gone -/

def renewal (settings : Settings) (classes : List ClassDecl) (files : List RenderedFile)
    (entry : RenderedFile) : List Change :=
  (files ++ [entry]).map (.write settings.outputDir) ++ writeService settings ++
    writeScripts settings classes

/-- A full pass that leaves stale registrars alone. It depends on the disk through the survivors
only. -/
def planRenewal (settings : Settings) (graph : Graph) (survivors : List DottedName) :
    Except GenerationError Pass := do
  let classes := graph.registeredClasses
  let (ledger, files) ← registrars (.ofGraph graph) {} classes
  (recordSurvivors (.ofGraph graph) ledger survivors).validate
  let entry ← mainEntry settings (classes.map ClassDecl.name ++ survivors)
  return {
    classes := classes.length
    surviving := survivors.length
    changes := renewal settings classes files entry }

def deleting (stale : List RegistrarFile) (pass : Pass) : Pass :=
  { pass with changes := stale.map .deleteStale ++ pass.changes }

theorem planGenerate_eq (settings : Settings) (graph : Graph) (disk : Disk) :
    planGenerate settings graph disk =
      (planRenewal settings graph
        (PassRequest.entryPlan (.generate settings graph) disk).survivors).map
        (deleting (PassRequest.entryPlan (.generate settings graph) disk).stale) := by
  unfold planGenerate planRenewal
  dsimp only
  generalize same : PassRequest.entryPlan (.generate settings graph) disk = plan
  change entryPlan settings disk graph.sourceClassNames
    (graph.registeredClasses.map ClassDecl.name) = plan at same
  rw [same]
  cases registrars (.ofGraph graph) {} graph.registeredClasses with
  | error e => rfl
  | ok generated =>
    obtain ⟨ledger, files⟩ := generated
    simp only [ok_bind]
    cases (recordSurvivors (.ofGraph graph) ledger plan.survivors).validate with
    | error e => rfl
    | ok accepted =>
      cases mainEntry settings (graph.registeredClasses.map ClassDecl.name ++ plan.survivors) with
      | error e => rfl
      | ok entry =>
        refine congrArg Except.ok ?_
        simp [deleting, renewal]

theorem planRenewal_ok {settings : Settings} {graph : Graph} {survivors : List DottedName}
    {pass : Pass} (h : planRenewal settings graph survivors = .ok pass) :
    ∃ ledger files entry,
      registrars (.ofGraph graph) {} graph.registeredClasses = .ok (ledger, files) ∧
        mainEntry settings (graph.registeredClasses.map ClassDecl.name ++ survivors) = .ok entry ∧
        pass.changes = renewal settings graph.registeredClasses files entry := by
  obtain ⟨⟨ledger, files⟩, generated, h⟩ := bind_ok h
  obtain ⟨-, -, h⟩ := bind_ok h
  obtain ⟨entry, written, h⟩ := bind_ok h
  exact ⟨ledger, files, entry, generated, written, by rw [pure_ok h]⟩

theorem generate_ok {settings : Settings} {graph : Graph} {disk : Disk} {report : Report}
    (ok : (generate settings graph disk).result = .ok report) :
    ∃ pass, planRenewal settings graph
        (PassRequest.entryPlan (.generate settings graph) disk).survivors = .ok pass ∧
      Change.run ((deleting (PassRequest.entryPlan (.generate settings graph) disk).stale
          pass).start disk)
        ((PassRequest.entryPlan (.generate settings graph) disk).stale.map .deleteStale ++
          pass.changes) = (⟨(generate settings graph disk).disk, report⟩, none) := by
  unfold generate at ok ⊢
  rw [planGenerate_eq] at ok ⊢
  cases planned : planRenewal settings graph
    (PassRequest.entryPlan (.generate settings graph) disk).survivors with
  | error e =>
    rw [planned] at ok
    cases ok
  | ok pass =>
    rw [planned] at ok
    exact ⟨pass, rfl, run_ok ok⟩

theorem generate_of_run {settings : Settings} {graph : Graph} {disk : Disk} {pass : Pass}
    {p : Progress}
    (planned : planRenewal settings graph
      (PassRequest.entryPlan (.generate settings graph) disk).survivors = .ok pass)
    (ran : Change.run ((deleting (PassRequest.entryPlan (.generate settings graph) disk).stale
        pass).start disk)
      ((PassRequest.entryPlan (.generate settings graph) disk).stale.map .deleteStale ++
        pass.changes) = (p, none)) :
    generate settings graph disk = ⟨.ok p.report, p.disk⟩ := by
  unfold generate
  rw [planGenerate_eq, planned]
  exact run_of_ok ran

theorem writeScripts_cases {settings : Settings} {classes : List ClassDecl} {change : Change}
    (member : change ∈ writeScripts settings classes) :
    (∃ scripts, settings.scripts = some scripts ∧ scripts.clean = true ∧
      change = .cleanScripts scripts.outputDir) ∨ ∃ base file, change = .write base file := by
  unfold writeScripts at member
  split at member
  · cases member
  · next scripts known =>
    rcases List.mem_append.1 member with cleaning | writing
    · split at cleaning
      · next clean => exact .inl ⟨scripts, known, clean, List.mem_singleton.1 cleaning⟩
      · cases cleaning
    · obtain ⟨c, -, rfl⟩ := List.mem_map.1 writing
      exact .inr ⟨_, _, rfl⟩

theorem writeScripts_ordered (settings : Settings) (classes : List ClassDecl) :
    Change.Ordered (writeScripts settings classes) := by
  unfold writeScripts
  split
  · exact .nil
  · next scripts _ =>
    have writing : Change.Ordered (classes.map fun c =>
        .write scripts.outputDir (ScriptResource.file c scripts.libraryPath)) := by
      refine Change.ordered_of_uncleared fun change member loc clears => ?_
      obtain ⟨c, -, rfl⟩ := List.mem_map.1 member
      exact clears
    split
    · exact List.pairwise_cons.2 ⟨fun _ _ _ writes => (nomatch writes), writing⟩
    · exact writing

section
variable {settings : Settings} {graph : Graph} {ledger : NameLedger} {files : List RenderedFile}
  {entry : RenderedFile} {survivors : List DottedName}

/-- The registrars, the main entry and the service file are no script resources. -/
theorem front_cases {change : Change}
    (plain : ∀ c ∈ graph.registeredClasses, c.name.Plain)
    (generated : registrars (.ofGraph graph) {} graph.registeredClasses = .ok (ledger, files))
    (written : mainEntry settings survivors = .ok entry)
    (member : change ∈ (files ++ [entry]).map (.write settings.outputDir) ++
      writeService settings) :
    ∃ base file, change = .write base file ∧
      ScriptResource.extension? ((base.join file.path).location.getLastD "") ≠ some "gdns" := by
  rcases List.mem_append.1 member with source | service
  · have aims := (sourceFiles_of_registrars plain generated written).aims source
    obtain ⟨file, -, rfl⟩ := List.mem_map.1 source
    exact ⟨_, file, rfl, (aims _ rfl).not_script (by decide)⟩
  · have aims := writeService_aims service
    obtain ⟨base, -, rfl⟩ := List.mem_map.1 service
    exact ⟨_, _, rfl, (aims _ rfl).not_script (by decide)⟩

theorem renewal_ordered (plain : ∀ c ∈ graph.registeredClasses, c.name.Plain)
    (generated : registrars (.ofGraph graph) {} graph.registeredClasses = .ok (ledger, files))
    (written : mainEntry settings survivors = .ok entry) :
    Change.Ordered (renewal settings graph.registeredClasses files entry) := by
  have front := @front_cases settings graph ledger files entry survivors
  refine List.pairwise_append.2 ⟨?_, writeScripts_ordered settings _, ?_⟩
  · refine Change.ordered_of_uncleared fun change member loc clears => ?_
    obtain ⟨base, file, rfl, -⟩ := front plain generated written member
    exact clears
  · intro first member later member' loc writes clears
    obtain ⟨base, file, rfl, other⟩ := front plain generated written member
    obtain rfl : (base.join file.path).location = loc := writes
    rcases writeScripts_cases member' with ⟨scripts, -, -, rfl⟩ | ⟨base', file', rfl⟩
    · obtain ⟨-, rel, -, -, resource⟩ := clears
      exact other resource
    · exact clears

theorem renewal_writes {rel : Location} (plain : ∀ c ∈ graph.registeredClasses, c.name.Plain)
    (generated : registrars (.ofGraph graph) {} graph.registeredClasses = .ok (ledger, files))
    (member : rel ∈ (graph.registeredClasses.map ClassDecl.name).map place) :
    ∃ change ∈ renewal settings graph.registeredClasses files entry,
      change.Writes ((root settings.outputDir).location ++ rel) := by
  have paths : files.map RenderedFile.path = (graph.registeredClasses.map ClassDecl.name).map
      fun n => ⟨Vocabulary.rootPackage :: place n⟩ := by
    rw [registrars_paths plain generated, List.map_map]
    rfl
  obtain ⟨file, listed, same⟩ :=
    List.mem_map.1 ((RegistrarFile.mem_written (List.forall_mem_map.2 plain) paths rel).2 member)
  refine ⟨.write settings.outputDir file, ?_, same⟩
  exact List.mem_append_left _ (List.mem_append_left _
    (List.mem_map_of_mem (List.mem_append_left _ listed)))

/-- Changes that renew the registrars of a graph, and can be made again. -/
structure Repeatable (settings : Settings) (graph : Graph) (changes : List Change) : Prop where
  ordered : Change.Ordered changes
  staying : ∀ file, .deleteStale file ∉ changes
  cleaning : ∀ directory, .cleanScripts directory ∈ changes → ∃ scripts,
    settings.scripts = some scripts ∧ scripts.clean = true ∧ directory = scripts.outputDir
  registrars : ∀ rel ∈ (graph.registeredClasses.map ClassDecl.name).map place,
    ∃ change ∈ changes, change.Writes ((root settings.outputDir).location ++ rel)

theorem planRenewal_repeatable {pass : Pass} (plain : ∀ c ∈ graph.registeredClasses, c.name.Plain)
    (planned : planRenewal settings graph survivors = .ok pass) :
    Repeatable settings graph pass.changes := by
  obtain ⟨ledger, files, entry, generated, written, changes⟩ := planRenewal_ok planned
  rw [changes]
  have cases : ∀ change ∈ renewal settings graph.registeredClasses files entry,
      (∃ scripts, settings.scripts = some scripts ∧ scripts.clean = true ∧
        change = .cleanScripts scripts.outputDir) ∨ ∃ base file, change = .write base file := by
    intro change member
    rcases List.mem_append.1 member with front | scripts
    · obtain ⟨base, file, rfl, -⟩ := front_cases plain generated written front
      exact .inr ⟨base, file, rfl⟩
    · exact writeScripts_cases scripts
  constructor
  case ordered => exact renewal_ordered plain generated written
  case staying =>
    intro file member
    rcases cases _ member with ⟨_, _, _, other⟩ | ⟨_, _, other⟩
    · cases other
    · cases other
  case cleaning =>
    intro directory member
    rcases cases _ member with ⟨scripts, known, clean, same⟩ | ⟨_, _, other⟩
    · cases same
      exact ⟨scripts, known, clean, rfl⟩
    · cases other
  case registrars => exact fun rel member => renewal_writes plain generated member

end

end Pass

/-! ### What the second pass finds -/

/-- Whatever a pass looks for on the disk can be found. -/
structure Disk.Shows (d : Disk) (settings : Settings) : Prop where
  registrars : d.Visible settings.outputDir
  scripts : ∀ scripts, settings.scripts = some scripts → scripts.clean = true →
    d.ScriptsVisible scripts.outputDir

theorem Disk.Closed.shows {d : Disk} (closed : d.Closed) (wf : d.WellFormed) {settings : Settings}
    (registrars : ".." ∉ (root settings.outputDir).route.names)
    (scripts : ∀ scripts, settings.scripts = some scripts →
      ".." ∉ scripts.outputDir.route.names) : d.Shows settings where
  registrars := closed.visible wf registrars
  scripts _ known _ := closed.scriptsVisible wf (scripts _ known)

section
variable {request : PassRequest} {before after : Disk} {contents : String}

theorem Renewed.survivors_eq (renewed : Renewed request before after contents)
    (plain : ∀ n ∈ request.regenerated, n.Plain) (wf : before.WellFormed)
    (visible : before.Visible request.settings.outputDir) :
    (request.entryPlan after).survivors = (request.entryPlan before).survivors := by
  refine EntryPlan.survivors_eq (renewed.keeps.wellFormed wf) wf fun rel n read source kept => ?_
  rw [renewed.reaches.filesUnder, visible.mem_filesUnder read,
    (renewed.keeps.wellFormed wf).mem_filesBelow, wf.mem_filesBelow, renewed.registrars rel n read]
  refine and_congr_right fun _ => ⟨?_, fun there => .inr ⟨there, fun _ => source⟩⟩
  rintro (written | ⟨there, -⟩)
  · obtain ⟨m, regenerated, rfl⟩ := List.mem_map.1 written
    obtain rfl := RegistrarFile.eq_of_className?_place (plain m regenerated) read
    exact absurd regenerated kept
  · exact there

/-- After a pass only a registrar that it wrote itself can be stale. -/
theorem Renewed.stale_written (renewed : Renewed request before after contents)
    (wf : before.WellFormed) (visible : before.Visible request.settings.outputDir)
    {file : RegistrarFile} (stale : file ∈ (request.entryPlan after).stale) :
    after.isFile file.path.location = true ∧ ∃ rel ∈ request.regenerated.map place,
      file.path.location = (root request.settings.outputDir).location ++ rel := by
  obtain ⟨found, gone⟩ := List.mem_filter.1 stale
  obtain ⟨rel, under, read⟩ := RegistrarFile.mem_scan.1 found
  have wf' := renewed.keeps.wellFormed wf
  have location := RegistrarFile.location_of_found? wf' under read
  obtain ⟨below, there⟩ := wf'.mem_filesBelow.1 (Disk.filesUnder_below under)
  refine ⟨location ▸ there, rel, ?_, location⟩
  have name := RegistrarFile.found?_className read
  rcases (renewed.registrars rel _ name).1 there with written | ⟨old, kept⟩
  · exact written
  · have source := kept ((visible.mem_filesUnder name).2 (wf.mem_filesBelow.2 ⟨below, old⟩))
    simp [source] at gone

end

section
variable {settings : Settings} {graph : Graph} {before after : Disk} {contents : String}
  {report : Report}

/-- What was carried out once can be carried out again on the disk that it left. -/
theorem Renewed.rerun (renewed : Renewed (.generate settings graph) before after contents)
    (wf : before.WellFormed) (shows : before.Shows settings) {changes : List Change}
    (repeatable : Pass.Repeatable settings graph changes) {stale : List RegistrarFile}
    {first second : Progress} (started : first.disk = before)
    (ran : Change.run first (stale.map .deleteStale ++ changes) = (⟨after, report⟩, none))
    (continued : second.disk = after) :
    ∃ p, Change.run second ((PassRequest.entryPlan (.generate settings graph) after).stale.map
        .deleteStale ++ changes) = (p, none) ∧
      (∀ loc, p.disk.read? loc = after.read? loc) ∧ after.SameTree p.disk := by
  subst started
  have finds : Change.Finds first.disk changes := by
    intro directory member
    obtain ⟨scripts, known, clean, rfl⟩ := repeatable.cleaning directory member
    exact shows.scripts scripts known clean
  have distinct : ((PassRequest.entryPlan (.generate settings graph) after).stale.map
      (·.path.location)).Nodup :=
    (List.filter_sublist.map _).nodup
      (RegistrarFile.scan_locations_nodup (renewed.keeps.wellFormed wf) _)
  refine Change.run_again wf repeatable.ordered repeatable.staying finds ran continued distinct
    (fun file stale => (renewed.stale_written wf shows.registrars stale).1) fun file stale => ?_
  obtain ⟨-, rel, written, place⟩ := renewed.stale_written wf shows.registrars stale
  rw [place]
  exact repeatable.registrars rel written

/-- No registrar is stale after a pass that generated those of source classes only. -/
theorem Renewed.undeleted {request : PassRequest}
    (renewed : Renewed request before after contents) (plain : ∀ n ∈ request.regenerated, n.Plain)
    (wf : before.WellFormed) (visible : before.Visible request.settings.outputDir)
    (known : ∀ n ∈ request.regenerated, n ∈ request.sources)
    (ok : (request.run after).result = .ok report) (rel : Location) (n : DottedName)
    (read : className? rel = some n) :
    (root request.settings.outputDir).location ++ rel ∉ report.deleted.map Path.location := by
  have follows : request.Follows request := ⟨rfl, fun _ => .rfl, fun _ => id⟩
  have noStale := follows.noStale fun n => renewed.mem_sources plain wf visible known
  obtain ⟨pass, files, entry, others, renews, ran⟩ := request.run_changes plain ok
  exact Change.run_retains (renewed.keeps.wellFormed wf) (renews.retains noStale read) ran (by simp)

end

/-! ### The second pass -/

/-- A second pass reports the same files and classes as the first, and leaves the disk as it was.
It deletes no registrar if the first pass generated those of source classes only. -/
structure Repeats (settings : Settings) (graph : Graph) (first second : Disk)
    (report report' : Report) : Prop where
  written : report'.written = report.written
  classes : report'.classes = report.classes
  surviving : report'.surviving = report.surviving
  files : ∀ loc, second.read? loc = first.read? loc
  directories : ∀ loc, second.isDirectory loc = first.isDirectory loc
  undeleted : (∀ c ∈ graph.registeredClasses, c.name ∈ graph.sourceClassNames) →
    ∀ rel n, className? rel = some n →
      (root settings.outputDir).location ++ rel ∉ report'.deleted.map Path.location

theorem generate_again {settings : Settings} {graph : Graph} {disk : Disk} (wf : disk.WellFormed)
    (shows : disk.Shows settings) (plain : ∀ c ∈ graph.registeredClasses, c.name.Plain)
    {report : Report} (ok : (Pass.generate settings graph disk).result = .ok report) :
    ∃ report', (Pass.generate settings graph (Pass.generate settings graph disk).disk).result =
        .ok report' ∧
      Repeats settings graph (Pass.generate settings graph disk).disk
        (Pass.generate settings graph (Pass.generate settings graph disk).disk).disk
        report report' := by
  have plain' : ∀ n ∈ PassRequest.regenerated (.generate settings graph), n.Plain :=
    List.forall_mem_map.2 plain
  obtain ⟨contents, renewed⟩ : ∃ contents, Renewed (.generate settings graph) disk
      (Pass.generate settings graph disk).disk contents := by
    obtain ⟨entry, -, renewed⟩ := PassRequest.renewed plain' wf ok
    exact ⟨entry.contents, renewed⟩
  obtain ⟨pass, planned, ran⟩ := Pass.generate_ok ok
  have repeatable := Pass.planRenewal_repeatable plain planned
  -- Both passes see the same survivors, so only what they delete as stale can differ.
  rw [← renewed.survivors_eq plain' wf shows.registrars] at planned
  generalize (Pass.generate settings graph disk).disk = after at renewed planned ran ⊢
  obtain ⟨p, ran', same, tree⟩ := renewed.rerun wf shows repeatable rfl ran
    (Pass.start_disk (Pass.deleting _ pass) after)
  have second := Pass.generate_of_run planned ran'
  obtain ⟨classes, surviving, written⟩ := Change.run_report ran
  obtain ⟨classes', surviving', written'⟩ := Change.run_report ran'
  rw [Change.written?_deletes] at written written'
  have undeleted := fun known => renewed.undeleted plain' wf shows.registrars
    (List.forall_mem_map.2 known) (congrArg Outcome.result second)
  rw [second]
  exact ⟨p.report, rfl, written'.trans written.symm, classes'.trans classes.symm,
    surviving'.trans surviving.symm, same, tree, undeleted⟩

/-! ### With script resources, which every pass deletes and writes again -/

theorem cleaning_repeats :
    Sample.before.WellFormed ∧ Sample.before.Shows Sample.cleaning ∧
      (∀ c ∈ Sample.playing.registeredClasses, c.name.Plain) ∧
      ∃ report, (Pass.generate Sample.cleaning Sample.playing Sample.before).result = .ok report ∧
        report.surviving = 1 ∧
        ∃ report', (Pass.generate Sample.cleaning Sample.playing
            (Pass.generate Sample.cleaning Sample.playing Sample.before).disk).result =
            .ok report' ∧
          Repeats Sample.cleaning Sample.playing
            (Pass.generate Sample.cleaning Sample.playing Sample.before).disk
            (Pass.generate Sample.cleaning Sample.playing
              (Pass.generate Sample.cleaning Sample.playing Sample.before).disk).disk
            report report' := by
  have closed : Sample.before.Closed := by decide
  have shows : Sample.before.Shows Sample.cleaning := by
    refine closed.shows before_wellFormed (by decide +kernel) fun scripts known => ?_
    cases known
    decide +kernel
  have plain : ∀ c ∈ Sample.playing.registeredClasses, c.name.Plain := by decide +kernel
  obtain ⟨report, ok, surviving⟩ := exists_ok_of_map
    (x := (Pass.generate Sample.cleaning Sample.playing Sample.before).result)
    (f := Report.surviving) (v := 1) (by decide +kernel)
  exact ⟨before_wellFormed, shows, plain, report, ok, surviving,
    generate_again before_wellFormed shows plain ok⟩

namespace Sample

/-- Script resources go to a directory through one that is not there. -/
def cleaningAway : Settings where
  outputDir := .ofText "out"
  scripts := some
    { libraryPath := "lib.gdnlib", outputDir := .ofText "other/../scripts", clean := true }

def oldScript : Disk :=
  ⟨[(["scripts", "Old.gdns"], .file ""), (["scripts"], .directory)]⟩

end Sample

/-- Only the second pass finds the registrar that was there, and so counts one more survivor. Only
the second clean-up finds the old resource. -/
theorem climbing_pass_changes :
    (Sample.before.WellFormed ∧ Sample.before.Closed ∧
      (∀ c ∈ Sample.playing.registeredClasses, c.name.Plain) ∧
      ∃ report report', (Sample.generatingAway.run Sample.before).result = .ok report ∧
        (Sample.generatingAway.run (Sample.generatingAway.run Sample.before).disk).result =
          .ok report' ∧
        report'.surviving ≠ report.surviving) ∧
    (Sample.oldScript.WellFormed ∧ Sample.oldScript.Closed ∧
      ∃ report report',
        (Pass.generate Sample.cleaningAway Sample.playing Sample.oldScript).result = .ok report ∧
        (Pass.generate Sample.cleaningAway Sample.playing
          (Pass.generate Sample.cleaningAway Sample.playing Sample.oldScript).disk).result =
          .ok report' ∧
        (Pass.generate Sample.cleaningAway Sample.playing Sample.oldScript).disk.read?
            ["scripts", "Old.gdns"] = some "" ∧
        (Pass.generate Sample.cleaningAway Sample.playing
          (Pass.generate Sample.cleaningAway Sample.playing Sample.oldScript).disk).disk.read?
            ["scripts", "Old.gdns"] = none) := by
  refine ⟨?registrar, ?script⟩
  case registrar =>
    have closed : Sample.before.Closed := by decide
    have plain : ∀ c ∈ Sample.playing.registeredClasses, c.name.Plain := by decide +kernel
    obtain ⟨report, ok, surviving⟩ := exists_ok_of_map
      (x := (Sample.generatingAway.run Sample.before).result) (f := Report.surviving) (v := 0)
      (by decide +kernel)
    obtain ⟨report', ok', surviving'⟩ := exists_ok_of_map
      (x := (Sample.generatingAway.run (Sample.generatingAway.run Sample.before).disk).result)
      (f := Report.surviving) (v := 1) (by decide +kernel)
    exact ⟨before_wellFormed, closed, plain, report, report', ok, ok', by
      rw [surviving, surviving']
      decide⟩
  case script =>
    have closed : Sample.oldScript.Closed := by decide
    have wf : Sample.oldScript.WellFormed := .of_properNames (by decide) (by decide)
    obtain ⟨report, ok, -⟩ := exists_ok_of_map
      (x := (Pass.generate Sample.cleaningAway Sample.playing Sample.oldScript).result)
      (f := Report.surviving) (v := 0) (by decide +kernel)
    obtain ⟨report', ok', -⟩ := exists_ok_of_map
      (x := (Pass.generate Sample.cleaningAway Sample.playing
        (Pass.generate Sample.cleaningAway Sample.playing Sample.oldScript).disk).result)
      (f := Report.surviving) (v := 0) (by decide +kernel)
    exact ⟨wf, closed, report, report', ok, ok', by decide +kernel, by decide +kernel⟩

end ScriptRegistrar
