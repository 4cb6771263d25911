import ScriptRegistrar.Proofs.Pass.Plan

namespace ScriptRegistrar

namespace RegistrarFile

def mainEntry (output : Path) : Path := (root output).child fileSuffix

theorem fileSuffix_properName : Path.ProperName fileSuffix := by decide

theorem text_root (output : Path) : (root output).text ≠ "" := Disk.text_child (by decide)

theorem mainEntry_eq (output : Path) :
    output.join ⟨[Vocabulary.rootPackage, fileSuffix]⟩ = mainEntry output := by
  simp [mainEntry, root, Path.join, Path.child]

theorem location_mainEntry (output : Path) :
    (mainEntry output).location = (root output).location ++ [fileSuffix] :=
  Path.location_join_properNames (root output) (by simpa using fileSuffix_properName)

theorem entryNamed_mainEntry (loc : Location) : EntryNamed (loc ++ [fileSuffix]) :=
  ⟨"", by simp⟩

theorem EntryNamed.append {rel : Location} (h : EntryNamed rel) (loc : Location) :
    EntryNamed (loc ++ rel) := by
  have some : rel ≠ [] := by
    rintro rfl
    have ending := h.getLast?
    revert ending
    decide
  obtain ⟨simple, last⟩ := h
  exact ⟨simple, (Path.getLastD_append some).trans last⟩

theorem mem_stale {disk : Disk} (wf : disk.WellFormed) {output : Path}
    {sources regenerated : List DottedName} {rel : Location} {n : DottedName}
    (read : className? rel = some n) :
    (root output).location ++ rel ∈
        (EntryPlan.of (scan disk output) sources regenerated).stale.map (·.path.location) ↔
      rel ∈ disk.filesUnder (root output) ∧ n ∉ sources := by
  simp only [EntryPlan.of, scan, List.mem_map, List.mem_filter, mem_sortOn, List.mem_filterMap,
    Option.map_eq_some_iff]
  constructor
  · rintro ⟨file, ⟨⟨other, under, m, read', rfl⟩, gone⟩, place⟩
    dsimp only at place gone
    rw [(wf.location_of_filesUnder under).1] at place
    obtain rfl := List.append_cancel_left place
    rw [read] at read'
    cases read'
    exact ⟨under, by simpa using gone⟩
  · rintro ⟨under, gone⟩
    exact ⟨_, ⟨⟨rel, under, n, read, rfl⟩, by simpa using gone⟩,
      (wf.location_of_filesUnder under).1⟩

/-- Of the registrars, those of source classes stay when the stale ones are deleted. -/
theorem isFile_deleted {p p' : Progress} (wf : p.disk.WellFormed) {output : Path}
    {sources regenerated : List DottedName} {rel : Location} {n : DottedName}
    (read : className? rel = some n)
    (ran : Change.run p ((EntryPlan.of (scan p.disk output) sources regenerated).stale.map
      .deleteStale) = (p', none)) :
    p'.disk.isFile ((root output).location ++ rel) = true ↔
      p.disk.isFile ((root output).location ++ rel) = true ∧
        (rel ∈ p.disk.filesUnder (root output) → n ∈ sources) := by
  unfold Disk.isFile
  rw [Change.run_deletes ran]
  split
  · next stale =>
    obtain ⟨under, gone⟩ := (mem_stale wf read).1 stale
    simp [under, gone]
  · next kept =>
    have stays : rel ∈ p.disk.filesUnder (root output) → n ∈ sources := fun under =>
      not_not.1 fun gone => kept ((mem_stale wf read).2 ⟨under, gone⟩)
    exact ⟨fun there => ⟨there, stays⟩, And.left⟩

end RegistrarFile

open RegistrarFile (root className? place)

theorem RegistrarFile.ne_mainEntry {output : Path} {rel : Location} {n : DottedName}
    (read : className? rel = some n) :
    (root output).location ++ rel ≠ (mainEntry output).location := by
  intro same
  rw [location_mainEntry] at same
  rw [List.append_cancel_left same] at read
  revert read
  exact (Option.some_ne_none n).symm

theorem RegistrarFile.mem_written {output : Path} {files : List Source.RenderedFile}
    {names : List DottedName} (plain : ∀ n ∈ names, n.Plain)
    (paths : files.map Source.RenderedFile.path =
      names.map fun n => ⟨Vocabulary.rootPackage :: place n⟩) (rel : Location) :
    (root output).location ++ rel ∈ files.map (fun file => (output.join file.path).location) ↔
      rel ∈ names.map place := by
  have locations : files.map (fun file => (output.join file.path).location) =
      (names.map place).map ((root output).location ++ ·) := by
    rw [show files.map (fun file => (output.join file.path).location) =
      (files.map Source.RenderedFile.path).map fun path => (output.join path).location by simp,
      paths, List.map_map, List.map_map]
    exact List.map_congr_left fun n member => location_place output (plain n member)
  rw [locations]
  constructor
  · intro member
    obtain ⟨other, place, same⟩ := List.mem_map.1 member
    rwa [← List.append_cancel_left same]
  · exact List.mem_map_of_mem

/-- The disk that a successful pass leaves. -/
structure Renewed (request : PassRequest) (before after : Disk) (contents : String) : Prop where
  keeps : before.Keeps after
  reaches : after.Reaches (root request.settings.outputDir)
  entry : after.readAt? (RegistrarFile.mainEntry request.settings.outputDir) = some contents
  registrars : ∀ rel n, className? rel = some n →
    (after.isFile ((root request.settings.outputDir).location ++ rel) = true ↔
      rel ∈ request.regenerated.map place ∨
        before.isFile ((root request.settings.outputDir).location ++ rel) = true ∧
          (rel ∈ before.filesUnder (root request.settings.outputDir) → n ∈ request.sources))

namespace Pass

/-- What a pass reports before it has changed anything. -/
def start (pass : Pass) (disk : Disk) : Progress :=
  ⟨disk, { classes := pass.classes, surviving := pass.surviving }⟩

@[simp]
theorem start_disk (pass : Pass) (disk : Disk) : (pass.start disk).disk = disk := rfl

@[simp]
theorem start_deleted (pass : Pass) (disk : Disk) : (pass.start disk).report.deleted = [] := rfl

theorem run_ok {pass : Pass} {disk : Disk} {report : Report}
    (h : (pass.run disk).result = .ok report) :
    Change.run (pass.start disk) pass.changes = (⟨(pass.run disk).disk, report⟩, none) := by
  unfold run at h ⊢
  unfold start
  dsimp only at h ⊢
  split at h
  · next ended =>
    cases h
    rw [ended]
  · cases h

theorem run_of_ok {pass : Pass} {disk : Disk} {p : Progress}
    (h : Change.run (pass.start disk) pass.changes = (p, none)) :
    pass.run disk = ⟨.ok p.report, p.disk⟩ := by
  unfold start at h
  unfold run
  dsimp only
  rw [h]

end Pass

theorem Pass.Renews.renewed {pass : Pass} {request : PassRequest} {disk : Disk}
    {files : List Source.RenderedFile} {entry : Source.RenderedFile} {others : List Change}
    (renews : pass.Renews request (request.entryPlan disk) files entry others)
    (plain : ∀ n ∈ request.regenerated, n.Plain) (wf : disk.WellFormed) {report : Report}
    (ok : (pass.run disk).result = .ok report) :
    Renewed request disk (pass.run disk).disk entry.contents := by
  have ran := run_ok ok
  obtain ⟨file, -, -, path⟩ := mainEntry_ok renews.entry
  have keeps := Change.run_keeps wf ran
  generalize (pass.run disk).disk = after at ran keeps ⊢
  -- The run in its four stages: stale registrars, registrars, the main entry, and the rest.
  rw [renews.changes, List.map_append] at ran
  obtain ⟨written, ran, later⟩ := Change.run_append_ok ran
  obtain ⟨deleted, deleting, ran⟩ := Change.run_append_ok ran
  obtain ⟨added, adding, ran⟩ := Change.run_append_ok ran
  obtain ⟨entered, entering, ran⟩ := Change.run_cons_ok ran
  cases ran
  have wf₁ := (Change.run_keeps wf deleting).wellFormed wf
  have wf₂ := (Change.run_keeps wf₁ adding).wellFormed wf₁
  have wf₃ := (Change.apply_keeps wf₂ (.write request.settings.outputDir entry)).wellFormed wf₂
  rw [entering] at wf₃
  -- The rest spares whatever is named like a registrar or the main entry.
  have spared : ∀ loc, RegistrarFile.EntryNamed loc → after.read? loc = written.disk.read? loc :=
    fun loc named => Change.run_spares wf₃ (renews.spared loc named) later
  rw [Change.apply, path, RegistrarFile.mainEntry_eq] at entering
  obtain ⟨wrote, walks⟩ := Progress.write_ok entering
  have reaches : after.Reaches (root request.settings.outputDir) :=
    (Change.run_keeps wf₃ later).reaches (Disk.reaches_of_parent (RegistrarFile.text_root _)
      RegistrarFile.fileSuffix_properName walks)
  refine ⟨keeps, reaches, ?_, fun rel n read => ?_⟩
  · rw [Disk.readAt?, RegistrarFile.mainEntry,
      reaches.find?_child RegistrarFile.fileSuffix_properName, Option.bind_some,
      spared _ (RegistrarFile.entryNamed_mainEntry _), wrote, RegistrarFile.location_mainEntry,
      if_pos rfl]
  · have named := (RegistrarFile.entryNamed_of_className? read).append
      (root request.settings.outputDir).location
    have kept : after.read? ((root request.settings.outputDir).location ++ rel) =
        added.disk.read? ((root request.settings.outputDir).location ++ rel) := by
      rw [spared _ named, wrote, if_neg (RegistrarFile.ne_mainEntry read)]
    rw [Disk.isFile, kept, ← Disk.isFile, Change.run_writes adding,
      RegistrarFile.mem_written plain renews.registrars,
      RegistrarFile.isFile_deleted wf read deleting, start_disk]

end ScriptRegistrar
