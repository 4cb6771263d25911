import ScriptRegistrar.Proofs.Pass.Idempotence

namespace ScriptRegistrar

open RegistrarFile (root scan)
open Source (RenderedFile)

namespace Pass

section
variable {settings : Settings} {graph : Graph} {files : List RenderedFile} {entry : RenderedFile}
  {change : Change}

theorem renewal_aims
    (sources : SourceFiles (graph.registeredClasses.map ClassDecl.name) files entry)
    (member : change ∈ renewal settings graph.registeredClasses files entry) :
    ∃ kind, change.Aims settings kind := by
  rcases List.mem_append.1 member with front | scripts
  · rcases List.mem_append.1 front with source | service
    · exact ⟨.source, sources.aims source⟩
    · exact ⟨.service, writeService_aims service⟩
  · exact ⟨.script, writeScripts_aims (List.forall_mem_map.1 sources.plain) scripts⟩

theorem renewal_apart
    (sources : SourceFiles (graph.registeredClasses.map ClassDecl.name) files entry)
    (once : (graph.registeredClasses.map ClassDecl.name).Nodup) :
    Change.Apart (renewal settings graph.registeredClasses files entry) := by
  have plain := List.forall_mem_map.1 sources.plain
  have targets : ∀ file ∈ files ++ [entry],
      Target settings .source (settings.outputDir.join file.path) := sources.targets
  have front := Change.apart_of_paths targets (sources.distinct once)
  refine List.pairwise_append.2 ⟨List.pairwise_append.2 ⟨front, writeService_apart settings, ?_⟩,
    writeScripts_apart plain once, ?_⟩
  · intro first source later service loc
    exact (sources.aims source).apart (writeService_aims service) (by decide)
  · intro first member later script loc
    rcases List.mem_append.1 member with source | service
    · exact (sources.aims source).apart (writeScripts_aims plain script) (by decide)
    · exact (writeService_aims service).apart (writeScripts_aims plain script) (by decide)

end

/-- The changes of a pass are about its own files. None of them is written twice, or deleted after
it was written. -/
structure Orderly (pass : Pass) (request : PassRequest) (disk : Disk) : Prop where
  ordered : Change.Ordered pass.changes
  apart : Change.Apart pass.changes
  aims : ∀ change ∈ pass.changes, ∃ kind, change.Aims request.settings kind
  stale : ∀ file, .deleteStale file ∈ pass.changes ↔ file ∈ (request.entryPlan disk).stale
  cleaning : ∀ directory, .cleanScripts directory ∈ pass.changes → ∃ scripts,
    request.settings.scripts = some scripts ∧ scripts.clean = true ∧
      directory = scripts.outputDir

theorem Orderly.of_deleting {request : PassRequest} {disk : Disk} {pass : Pass}
    (ordered : Change.Ordered pass.changes) (apart : Change.Apart pass.changes)
    (aims : ∀ change ∈ pass.changes, ∃ kind, change.Aims request.settings kind)
    (staying : ∀ file, .deleteStale file ∉ pass.changes)
    (cleaning : ∀ directory, .cleanScripts directory ∈ pass.changes → ∃ scripts,
      request.settings.scripts = some scripts ∧ scripts.clean = true ∧
        directory = scripts.outputDir) :
    (deleting (request.entryPlan disk).stale pass).Orderly request disk where
  ordered := ordered.deletes_append
  apart := apart.deletes_append
  aims change member := by
    rcases List.mem_append.1 member with delete | other
    · obtain ⟨file, -, rfl⟩ := List.mem_map.1 delete
      exact ⟨.source, nofun⟩
    · exact aims change other
  stale file := by
    rw [deleting, List.mem_append, or_iff_left (staying file)]
    exact List.mem_map_of_injective fun _ _ same => Change.deleteStale.inj same
  cleaning directory member := by
    rcases List.mem_append.1 member with delete | other
    · obtain ⟨file, -, same⟩ := List.mem_map.1 delete
      cases same
    · exact cleaning directory other

end Pass

theorem PassRequest.plan_orderly {request : PassRequest} {disk : Disk} {pass : Pass}
    (plain : ∀ n ∈ request.regenerated, n.Plain) (once : request.regenerated.Nodup)
    (planned : request.plan disk = .ok pass) : pass.Orderly request disk := by
  cases request with
  | generate settings graph =>
    have plain' : ∀ c ∈ graph.registeredClasses, c.name.Plain := List.forall_mem_map.1 plain
    rw [plan, Pass.planGenerate_eq] at planned
    cases renewed : Pass.planRenewal settings graph
      (PassRequest.entryPlan (.generate settings graph) disk).survivors with
    | error e =>
      rw [renewed] at planned
      cases planned
    | ok rest =>
      rw [renewed] at planned
      cases planned
      have repeatable := Pass.planRenewal_repeatable plain' renewed
      obtain ⟨ledger, files, entry, generated, written, changes⟩ := Pass.planRenewal_ok renewed
      have sources := Pass.sourceFiles_of_registrars plain' generated written
      refine .of_deleting repeatable.ordered ?_ ?_ repeatable.staying repeatable.cleaning
      · exact changes ▸ Pass.renewal_apart sources once
      · exact changes ▸ fun change => Pass.renewal_aims sources
  | refresh settings sources =>
    obtain ⟨entry, written, planned⟩ := bind_ok planned
    obtain rfl := pure_ok planned
    obtain ⟨file, -, -, path⟩ := Pass.mainEntry_ok written
    have main : Pass.SourceFiles [] [] entry := ⟨nofun, rfl, path⟩
    change (Pass.deleting (PassRequest.entryPlan (.refresh settings sources) disk).stale
      ⟨0, _, [.write settings.outputDir entry]⟩).Orderly _ disk
    refine .of_deleting ?_ ?_ ?_ ?_ ?_
    · exact List.pairwise_singleton _ _
    · exact List.pairwise_singleton _ _
    · exact fun change member => ⟨.source, main.aims member⟩
    · exact fun file member => nomatch List.mem_singleton.1 member
    · exact fun directory member => nomatch List.mem_singleton.1 member

/-- What the report of a pass tells about the files on the disk before and after it. -/
structure Accounted (request : PassRequest) (pass : Pass) (before after : Disk) (report : Report) :
    Prop where
  unchanged : ∀ loc, loc ∉ report.deleted.map Path.location →
    loc ∉ report.written.map Path.location → after.read? loc = before.read? loc
  written : report.written = pass.changes.filterMap Change.written?
  contents : ∀ path ∈ report.written, ∃ base file, .write base file ∈ pass.changes ∧
    base.join file.path = path ∧ after.readAt? path = some file.contents
  once : (report.written.map Path.location).Nodup
  gone : ∀ path ∈ report.deleted, path ∉ report.written → after.isFile path.location = false
  registrars : ∀ file ∈ scan before request.settings.outputDir,
    file.path ∈ report.deleted ↔ file.className ∉ request.sources
  others : ∀ path ∈ report.deleted,
    (∃ file ∈ scan before request.settings.outputDir, file.path = path) ∨
      ∃ scripts, request.settings.scripts = some scripts ∧ scripts.clean = true ∧
        ScriptResource.Cleans scripts.outputDir path.location

namespace Pass

variable {pass : Pass} {request : PassRequest} {disk after : Disk} {report : Report} {path : Path}

/-- The registrars that are deleted are stale. Whatever else is deleted was found by a clean-up. -/
theorem Orderly.deleted_cases (orderly : pass.Orderly request disk) (wf : disk.WellFormed)
    (ran : Change.run (pass.start disk) pass.changes = (⟨after, report⟩, none))
    (member : path ∈ report.deleted) :
    (∃ file ∈ (request.entryPlan disk).stale, file.path = path) ∨
      ∃ scripts, request.settings.scripts = some scripts ∧ scripts.clean = true ∧
        ∃ d : Disk, d.WellFormed ∧ path ∈ ScriptResource.existing d scripts.outputDir := by
  rcases Change.run_deleted_cases wf ran member with none | ⟨file, listed, same⟩ |
    ⟨directory, listed, d, wf', found⟩
  · cases none
  · exact .inl ⟨file, (orderly.stale file).1 listed, same⟩
  · obtain ⟨scripts, known, clean, rfl⟩ := orderly.cleaning directory listed
    exact .inr ⟨scripts, known, clean, d, wf', found⟩

theorem Orderly.deleted_target (orderly : pass.Orderly request disk) (wf : disk.WellFormed)
    (ran : Change.run (pass.start disk) pass.changes = (⟨after, report⟩, none))
    (member : path ∈ report.deleted) : ∃ kind, Target request.settings kind path := by
  rcases orderly.deleted_cases wf ran member with ⟨file, stale, rfl⟩ |
    ⟨scripts, known, -, d, wf', found⟩
  · exact ⟨.source, .of_scan wf (List.mem_of_mem_filter stale)⟩
  · exact ⟨.script, .of_existing wf' known found⟩

theorem Orderly.accounted (orderly : pass.Orderly request disk) (wf : disk.WellFormed)
    (ran : Change.run (pass.start disk) pass.changes = (⟨after, report⟩, none)) :
    Accounted request pass disk after report := by
  have accounts := Change.run_accounts wf
    (⟨fun _ _ _ => rfl, nofun⟩ : (pass.start disk).Accounts disk) ran
  have written : report.written = pass.changes.filterMap Change.written? :=
    (Change.run_report ran).2.2
  constructor
  case unchanged => exact accounts.unchanged
  case written => exact written
  case contents =>
    intro path member
    rw [written] at member
    obtain ⟨base, file, listed, rfl⟩ := Change.mem_written.1 member
    exact ⟨base, file, listed, rfl,
      Change.run_contents wf orderly.ordered orderly.apart ran listed⟩
  case once =>
    rw [written]
    exact orderly.apart.nodup
  case gone =>
    intro path deleted unwritten
    refine accounts.gone _ (List.mem_map_of_mem deleted) fun member => unwritten ?_
    obtain ⟨path', wrote, same⟩ := List.mem_map.1 member
    obtain ⟨base, file, listed, rfl⟩ := Change.mem_written.1 (written ▸ wrote)
    obtain ⟨kind, aims⟩ := orderly.aims _ listed
    obtain ⟨kind', target⟩ := orderly.deleted_target wf ran deleted
    rwa [← (aims _ rfl).path_unique target same]
  case registrars =>
    intro file found
    have stale : file ∈ (request.entryPlan disk).stale ↔ file.className ∉ request.sources := by
      unfold PassRequest.entryPlan Pass.entryPlan EntryPlan.of
      simp [found]
    rw [← stale]
    constructor
    · intro deleted
      rcases orderly.deleted_cases wf ran deleted with ⟨other, gone, same⟩ |
        ⟨scripts, known, -, d, wf', cleaned⟩
      · have found' := List.mem_of_mem_filter gone
        have place := List.inj_on_of_nodup_map (RegistrarFile.scan_locations_nodup wf _) found'
          found (congrArg Path.location same)
        rwa [← place]
      · -- What the clean-up deletes is a script resource and not a registrar.
        have kinds := (Target.of_scan wf found).kind_unique (.of_existing wf' known cleaned) rfl
        cases kinds
    · exact fun gone => Change.run_deleteStale wf ran ((orderly.stale file).2 gone)
  case others =>
    intro path deleted
    rcases orderly.deleted_cases wf ran deleted with ⟨file, stale, same⟩ |
      ⟨scripts, known, clean, d, wf', found⟩
    · exact .inl ⟨file, List.mem_of_mem_filter stale, same⟩
    · exact .inr ⟨scripts, known, clean, wf'.cleans_of_existing (List.mem_map_of_mem found)⟩

end Pass

theorem report_accounts_for_disk {request : PassRequest} {disk : Disk} (wf : disk.WellFormed)
    (plain : ∀ n ∈ request.regenerated, n.Plain) (once : request.regenerated.Nodup)
    {report : Report} (ok : (request.run disk).result = .ok report) :
    ∃ pass, request.plan disk = .ok pass ∧
      Accounted request pass disk (request.run disk).disk report := by
  rw [PassRequest.run_eq] at ok ⊢
  cases planned : request.plan disk with
  | error e =>
    rw [planned] at ok
    cases ok
  | ok pass =>
    rw [planned] at ok
    exact ⟨pass, rfl, (request.plan_orderly plain once planned).accounted wf (Pass.run_ok ok)⟩

namespace Sample

/-- The service file and the script resources go where the registrars are. `Player` is generated
although it is no source class. -/
def mixing : PassRequest :=
  .generate {
    outputDir := .ofText "out"
    projectRoot := some (.ofText "out")
    scripts := some
      { libraryPath := "lib.gdnlib", outputDir := .ofText "out/godot", clean := true } }
    { playing with sourceClasses := [.parse "game.Old"] }

def mixed : Disk :=
  ⟨[(["out", "godot", "Gone.gdns"], .file ""), (["out", "godot", "game", "GoneEntry.kt"], .file ""),
    (["out", "godot", "game", "OldEntry.kt"], .file ""),
    (["out", "godot", "game", "Player.gdns"], .file ""),
    (["out", "godot", "game", "PlayerEntry.kt"], .file ""), (["out", "notes.txt"], .file ""),
    (["out", "godot", "game"], .directory), (["out", "godot"], .directory), (["out"], .directory)]⟩

end Sample

theorem mixing_accounted :
    Sample.mixed.WellFormed ∧ (∀ n ∈ Sample.mixing.regenerated, n.Plain) ∧
      Sample.mixing.regenerated.Nodup ∧
      ∃ report, (Sample.mixing.run Sample.mixed).result = .ok report ∧
        report.deleted.map Path.text = ["out/godot/game/GoneEntry.kt",
          "out/godot/game/PlayerEntry.kt", "out/godot/Gone.gdns", "out/godot/game/Player.gdns"] ∧
        ∃ pass, Sample.mixing.plan Sample.mixed = .ok pass ∧
          Accounted Sample.mixing pass Sample.mixed (Sample.mixing.run Sample.mixed).disk
            report := by
  have wf : Sample.mixed.WellFormed := .of_properNames (by decide) (by decide)
  have plain : ∀ n ∈ Sample.mixing.regenerated, n.Plain := by decide +kernel
  have once : Sample.mixing.regenerated.Nodup := by decide +kernel
  obtain ⟨report, ok, deleted⟩ := exists_ok_of_map (x := (Sample.mixing.run Sample.mixed).result)
    (f := fun report => report.deleted.map Path.text)
    (v := ["out/godot/game/GoneEntry.kt", "out/godot/game/PlayerEntry.kt", "out/godot/Gone.gdns",
      "out/godot/game/Player.gdns"])
    (by decide +kernel)
  exact ⟨wf, plain, once, report, ok, deleted, report_accounts_for_disk wf plain once ok⟩

end ScriptRegistrar
