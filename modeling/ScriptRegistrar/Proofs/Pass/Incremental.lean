import ScriptRegistrar.Proofs.Pass.Coherence

namespace ScriptRegistrar

open RegistrarFile (root scan className className? place)

/-- The same settings and source classes, and no class to regenerate that the first pass had not. -/
structure PassRequest.Follows (next first : PassRequest) : Prop where
  settings : next.settings = first.settings
  sources : ∀ n, n ∈ next.sources ↔ n ∈ first.sources
  regenerated : ∀ n ∈ next.regenerated, n ∈ first.regenerated

/-! ### What a pass leaves alone -/

theorem PassRequest.run_changes {request : PassRequest} {disk : Disk} {report : Report}
    (plain : ∀ n ∈ request.regenerated, n.Plain) (ok : (request.run disk).result = .ok report) :
    ∃ (pass : Pass) (files : _) (entry : _) (others : _),
      pass.Renews request (request.entryPlan disk) files entry others ∧
        Change.run (pass.start disk) pass.changes = (⟨(request.run disk).disk, report⟩, none) := by
  rw [run_eq] at ok ⊢
  cases planned : request.plan disk with
  | error e =>
    rw [planned] at ok
    cases ok
  | ok pass =>
    rw [planned] at ok
    obtain ⟨files, entry, others, renews⟩ := plan_renews plain planned
    exact ⟨pass, files, entry, others, renews, Pass.run_ok ok⟩

theorem Change.Spares.retains {change : Change} {loc : Location} (h : change.Spares loc) :
    change.Retains loc := by
  cases change with
  | deleteStale file => exact h
  | write base file => trivial
  | cleanScripts directory => exact h

namespace Pass.Renews

variable {pass : Pass} {request : PassRequest} {plan : EntryPlan}
  {files : List Source.RenderedFile} {entry : Source.RenderedFile} {others : List Change}
  {rel : Location} {n : DottedName}

theorem change_cases (renews : pass.Renews request plan files entry others)
    (noStale : plan.stale = []) {change : Change} (member : change ∈ pass.changes) :
    (∃ file ∈ files, change = .write request.settings.outputDir file) ∨
      change = .write request.settings.outputDir entry ∨ change ∈ others := by
  rw [renews.changes, noStale, List.map_nil, List.nil_append, List.mem_append, List.mem_map]
    at member
  rcases member with ⟨file, written, rfl⟩ | other
  · rcases List.mem_append.1 written with registrar | main
    · exact .inl ⟨file, registrar, rfl⟩
    · exact .inr (.inl (List.mem_singleton.1 main ▸ rfl))
  · exact .inr (.inr other)

/-- A pass without stale registrars deletes no registrar. -/
theorem retains (renews : pass.Renews request plan files entry others) (noStale : plan.stale = [])
    (read : className? rel = some n) :
    ∀ change ∈ pass.changes,
      change.Retains ((root request.settings.outputDir).location ++ rel) := by
  intro change member
  rcases renews.change_cases noStale member with ⟨file, -, rfl⟩ | rfl | other
  · trivial
  · trivial
  · have named := (RegistrarFile.entryNamed_of_className? read).append
      (root request.settings.outputDir).location
    exact (renews.spared _ named change other).retains

/-- It only writes the registrars of the classes that it regenerates. -/
theorem spares (renews : pass.Renews request plan files entry others)
    (plain : ∀ n ∈ request.regenerated, n.Plain) (noStale : plan.stale = [])
    (read : className? rel = some n) (fresh : n ∉ request.regenerated) :
    ∀ change ∈ pass.changes,
      change.Spares ((root request.settings.outputDir).location ++ rel) := by
  intro change member
  obtain ⟨file, -, -, path⟩ := mainEntry_ok renews.entry
  rcases renews.change_cases noStale member with ⟨file, written, rfl⟩ | rfl | other
  · intro same
    have listed : (root request.settings.outputDir).location ++ rel ∈
        files.map fun file => (request.settings.outputDir.join file.path).location :=
      List.mem_map.2 ⟨file, written, same⟩
    obtain ⟨m, regenerated, rfl⟩ :=
      List.mem_map.1 ((RegistrarFile.mem_written plain renews.registrars rel).1 listed)
    obtain rfl := RegistrarFile.eq_of_className?_place (plain m regenerated) read
    exact fresh regenerated
  · intro same
    rw [path, RegistrarFile.mainEntry_eq] at same
    exact RegistrarFile.ne_mainEntry read same.symm
  · exact renews.spared _ ((RegistrarFile.entryNamed_of_className? read).append _) change other

end Pass.Renews

/-! ### The pass after a pass -/

/-- The main entry is as it was, no registrar is deleted, and the registrars of classes that are not
regenerated are as they were. -/
structure Undisturbed (request : PassRequest) (before after : Disk) (report : Report) : Prop where
  entry : ∃ text, before.readAt? (RegistrarFile.mainEntry request.settings.outputDir) = some text ∧
    after.readAt? (RegistrarFile.mainEntry request.settings.outputDir) = some text
  undeleted : ∀ rel n, className? rel = some n →
    (root request.settings.outputDir).location ++ rel ∉ report.deleted.map Path.location
  present : ∀ rel n, className? rel = some n →
    before.isFile ((root request.settings.outputDir).location ++ rel) = true →
      after.isFile ((root request.settings.outputDir).location ++ rel) = true
  unchanged : ∀ rel n, className? rel = some n → n ∉ request.regenerated →
    after.read? ((root request.settings.outputDir).location ++ rel) =
      before.read? ((root request.settings.outputDir).location ++ rel)

theorem Pass.mainEntry_congr {settings : Settings} {classes classes' : List DottedName}
    (same : distinctSorted classes = distinctSorted classes') :
    mainEntry settings classes = mainEntry settings classes' := by
  unfold mainEntry
  rw [MainEntry.file_congr same]

/-- All registrars on the disk after a pass belong to source classes, if the regenerated ones do. -/
theorem Renewed.mem_sources {request : PassRequest} {before after : Disk} {contents : String}
    (h : Renewed request before after contents) (plain : ∀ n ∈ request.regenerated, n.Plain)
    (wf : before.WellFormed) (visible : before.Visible request.settings.outputDir)
    (known : ∀ n ∈ request.regenerated, n ∈ request.sources) {n : DottedName}
    (there : n ∈ (scan after request.settings.outputDir).map className) : n ∈ request.sources := by
  rcases (h.mem_scan plain wf visible).1 there with regenerated | ⟨-, source⟩
  · exact known n regenerated
  · exact source

section
variable {first next : PassRequest} {before after : Disk} {contents : String}

theorem PassRequest.Follows.noStale (follows : next.Follows first)
    (sources : ∀ n ∈ (scan after first.settings.outputDir).map className, n ∈ first.sources) :
    (next.entryPlan after).stale = [] := by
  unfold PassRequest.entryPlan Pass.entryPlan EntryPlan.of
  rw [List.filter_eq_nil_iff]
  intro file member
  rw [follows.settings] at member
  have source := sources _ (List.mem_map_of_mem member)
  simpa using (follows.sources _).2 source

theorem PassRequest.Follows.called_eq (follows : next.Follows first)
    (renewed : Renewed first before after contents) (plain : ∀ n ∈ first.regenerated, n.Plain)
    (wf : before.WellFormed) (visible : before.Visible first.settings.outputDir)
    (known : ∀ n ∈ first.regenerated, n ∈ first.sources) :
    next.called after = first.called before := by
  refine distinctSorted_congr fun n => ?_
  rw [List.mem_append, List.mem_append, mem_survivors, mem_survivors, follows.settings,
    follows.sources, renewed.mem_scan plain wf visible]
  have fewer := follows.regenerated n
  have listed := known n
  tauto

end

theorem incremental_pass_agrees {first next : PassRequest} {disk : Disk} (wf : disk.WellFormed)
    (visible : disk.Visible first.settings.outputDir) (plain : ∀ n ∈ first.regenerated, n.Plain)
    (known : ∀ n ∈ first.regenerated, n ∈ first.sources) {report report' : Report}
    (ok : (first.run disk).result = .ok report) (follows : next.Follows first)
    (ok' : (next.run (first.run disk).disk).result = .ok report') :
    Undisturbed next (first.run disk).disk (next.run (first.run disk).disk).disk report' := by
  have plain' : ∀ n ∈ next.regenerated, n.Plain := fun n member =>
    plain n (follows.regenerated n member)
  obtain ⟨entry, written, renewed⟩ := first.renewed plain wf ok
  have wf' := renewed.keeps.wellFormed wf
  obtain ⟨entry', written', renewed'⟩ := next.renewed plain' wf' ok'
  obtain ⟨pass, files, main, others, renews, ran⟩ := next.run_changes plain' ok'
  have sources : ∀ n ∈ (scan (first.run disk).disk first.settings.outputDir).map className,
      n ∈ first.sources := fun n => renewed.mem_sources plain wf visible known
  have noStale := follows.noStale sources
  have sameEntry : entry' = entry := by
    have called := follows.called_eq renewed plain wf visible known
    rw [Pass.mainEntry_congr called, follows.settings, written] at written'
    exact (Except.ok.inj written').symm
  constructor
  case entry =>
    rw [sameEntry] at renewed'
    exact ⟨entry.contents, follows.settings ▸ renewed.entry, renewed'.entry⟩
  case undeleted =>
    exact fun rel n read => Change.run_retains wf' (renews.retains noStale read) ran (by simp)
  case present =>
    intro rel n read there
    refine (renewed'.registrars rel n read).2 (.inr ⟨there, fun under => ?_⟩)
    rw [follows.settings] at under
    have scanned := (RegistrarFile.scan_classes _ _ n).2 ⟨rel, under, read⟩
    exact (follows.sources n).2 (sources n scanned)
  case unchanged =>
    intro rel n read fresh
    exact Change.run_spares wf' (renews.spares plain' noStale read fresh) ran

/-! ### A refresh after a full pass -/

theorem refreshing_follows : Sample.refreshing.Follows Sample.generating where
  settings := rfl
  sources _ := Iff.rfl
  regenerated _ member := nomatch member

theorem refresh_after_generate :
    Sample.before.WellFormed ∧ Sample.before.Visible Sample.generating.settings.outputDir ∧
      (∀ n ∈ Sample.generating.regenerated, n.Plain) ∧
      (∀ n ∈ Sample.generating.regenerated, n ∈ Sample.generating.sources) ∧
      Sample.refreshing.Follows Sample.generating ∧
      ∃ report report', (Sample.generating.run Sample.before).result = .ok report ∧
        (Sample.refreshing.run (Sample.generating.run Sample.before).disk).result = .ok report' ∧
        report'.surviving = 2 ∧
        Undisturbed Sample.refreshing (Sample.generating.run Sample.before).disk
          (Sample.refreshing.run (Sample.generating.run Sample.before).disk).disk report' := by
  have visible : Sample.before.Visible Sample.generating.settings.outputDir := fun none =>
    absurd none (by decide +kernel)
  have plain : ∀ n ∈ Sample.generating.regenerated, n.Plain := by decide +kernel
  have known : ∀ n ∈ Sample.generating.regenerated, n ∈ Sample.generating.sources := by
    decide +kernel
  obtain ⟨report, ok, -⟩ := exists_ok_of_map
    (x := (Sample.generating.run Sample.before).result) (f := Report.surviving) (v := 1)
    (by decide +kernel)
  obtain ⟨report', ok', surviving⟩ := exists_ok_of_map
    (x := (Sample.refreshing.run (Sample.generating.run Sample.before).disk).result)
    (f := Report.surviving) (v := 2) (by decide +kernel)
  exact ⟨before_wellFormed, visible, plain, known, refreshing_follows, report, report', ok, ok',
    surviving,
    incremental_pass_agrees before_wellFormed visible plain known ok refreshing_follows ok'⟩

namespace Sample

def generatingAway : PassRequest := .generate { outputDir := .ofText "new/../out" } playing

end Sample

theorem climbing_follows : Sample.climbing.Follows Sample.generatingAway where
  settings := rfl
  sources _ := Iff.rfl
  regenerated _ member := nomatch member

/-- Only the second pass finds the registrar that was there, so it calls one more. -/
theorem climbing_entry_changes :
    Sample.before.WellFormed ∧ Sample.before.Closed ∧
      (∀ n ∈ Sample.generatingAway.regenerated, n.Plain) ∧
      (∀ n ∈ Sample.generatingAway.regenerated, n ∈ Sample.generatingAway.sources) ∧
      Sample.climbing.Follows Sample.generatingAway ∧
      ∃ report report', (Sample.generatingAway.run Sample.before).result = .ok report ∧
        (Sample.climbing.run (Sample.generatingAway.run Sample.before).disk).result =
          .ok report' ∧
        (Sample.climbing.run (Sample.generatingAway.run Sample.before).disk).disk.readAt?
            (RegistrarFile.mainEntry Sample.climbing.settings.outputDir) ≠
          (Sample.generatingAway.run Sample.before).disk.readAt?
            (RegistrarFile.mainEntry Sample.climbing.settings.outputDir) := by
  have closed : Sample.before.Closed := by
    unfold Disk.Closed
    decide
  have plain : ∀ n ∈ Sample.generatingAway.regenerated, n.Plain := by decide +kernel
  have known : ∀ n ∈ Sample.generatingAway.regenerated, n ∈ Sample.generatingAway.sources := by
    decide +kernel
  obtain ⟨report, ok, -⟩ := exists_ok_of_map
    (x := (Sample.generatingAway.run Sample.before).result) (f := Report.surviving) (v := 0)
    (by decide +kernel)
  obtain ⟨report', ok', -⟩ := exists_ok_of_map
    (x := (Sample.climbing.run (Sample.generatingAway.run Sample.before).disk).result)
    (f := Report.surviving) (v := 2) (by decide +kernel)
  exact ⟨before_wellFormed, closed, plain, known, climbing_follows, report, report', ok, ok',
    by decide +kernel⟩

end ScriptRegistrar
