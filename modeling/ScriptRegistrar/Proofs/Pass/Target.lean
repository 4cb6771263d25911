import ScriptRegistrar.Proofs.Pass.Report
import ScriptRegistrar.Proofs.Pass.Scan

/-! A pass names every file that it changes by one path, so none is written twice. -/

namespace ScriptRegistrar

open RegistrarFile (root scan className? place EntryNamed)
open Source (RenderedFile)

inductive FileKind where
  | source
  | service
  | script
deriving DecidableEq

def FileKind.ofName (name : String) : FileKind :=
  if (Text.dropEnd? RegistrarFile.fileSuffix name).isSome then .source
  else if ScriptResource.extension? name = some "gdns" then .script
  else .service

theorem FileKind.ofName_of_script {name : String}
    (resource : ScriptResource.extension? name = some "gdns") : ofName name = .script := by
  have noSource : ¬ (Text.dropEnd? RegistrarFile.fileSuffix name).isSome = true := by
    intro ending
    obtain ⟨simple, dropped⟩ := Option.isSome_iff_exists.1 ending
    have named : EntryNamed [name] := ⟨simple, Text.dropEnd?_eq_some_iff.1 dropped⟩
    exact named.extension? resource
  rw [ofName, if_neg noSource, if_pos resource]

/-- The path of a file that a pass may write or delete. -/
inductive Target (settings : Settings) : FileKind → Path → Prop
  | source {rel : Location} (proper : ∀ name ∈ rel, Path.ProperName name) (named : EntryNamed rel) :
    Target settings .source ((root settings.outputDir).join ⟨rel⟩)
  | service {base : Path} (known : settings.projectRoot = some base) :
    Target settings .service (base.join MainEntry.serviceFile.path)
  | script {scripts : ScriptSettings} {rel : Location} (known : settings.scripts = some scripts)
    (proper : ∀ name ∈ rel, Path.ProperName name)
    (resource : ScriptResource.extension? (rel.getLastD "") = some "gdns") :
    Target settings .script (scripts.outputDir.join ⟨rel⟩)

namespace Path

theorem join_injective (base : Path) : Function.Injective base.join := fun _ _ same =>
  congrArg Path.mk (List.append_cancel_left (congrArg Path.pieces same))

theorem join_eq_of_location {base : Path} {rel rel' : Location}
    (proper : ∀ name ∈ rel, ProperName name) (proper' : ∀ name ∈ rel', ProperName name)
    (same : (base.join ⟨rel⟩).location = (base.join ⟨rel'⟩).location) :
    base.join ⟨rel⟩ = base.join ⟨rel'⟩ := by
  rw [location_join_properNames _ proper, location_join_properNames _ proper'] at same
  rw [List.append_cancel_left same]

end Path

namespace Target

variable {settings : Settings} {kind kind' : FileKind} {path path' : Path}

theorem kind_eq (target : Target settings kind path) :
    FileKind.ofName (path.location.getLastD "") = kind := by
  cases target with
  | source proper named =>
    rw [Path.location_join_properNames _ proper]
    obtain ⟨simple, last⟩ := named.append (root settings.outputDir).location
    rw [last, FileKind.ofName, Text.dropEnd?_eq_some_iff.2 rfl]
    rfl
  | service known =>
    rw [Pass.location_serviceFile, Path.getLastD_append (List.cons_ne_nil _ _)]
    decide
  | script known proper resource =>
    rename_i scripts rel
    have some : rel ≠ [] := by
      rintro rfl
      revert resource
      decide
    rw [Path.location_join_properNames _ proper, Path.getLastD_append some,
      FileKind.ofName_of_script resource]

theorem not_script (target : Target settings kind path) (different : kind ≠ .script) :
    ScriptResource.extension? (path.location.getLastD "") ≠ some "gdns" := fun resource =>
  different (target.kind_eq.symm.trans (FileKind.ofName_of_script resource))

theorem kind_unique (target : Target settings kind path) (target' : Target settings kind' path')
    (same : path.location = path'.location) : kind = kind' := by
  rw [← target.kind_eq, ← target'.kind_eq, same]

theorem path_unique (target : Target settings kind path) (target' : Target settings kind' path')
    (same : path.location = path'.location) : path = path' := by
  obtain rfl := target.kind_unique target' same
  cases target with
  | source proper named =>
    cases target' with
    | source proper' named' => exact Path.join_eq_of_location proper proper' same
  | service known =>
    cases target' with
    | service known' =>
      rw [known] at known'
      rw [Option.some.inj known']
  | script known proper resource =>
    cases target' with
    | script known' proper' resource' =>
      rw [known] at known'
      obtain rfl := Option.some.inj known'
      exact Path.join_eq_of_location proper proper' same

/-! ### Deleted files -/

variable {disk : Disk}

theorem of_scan (wf : disk.WellFormed) {file : RegistrarFile}
    (member : file ∈ scan disk settings.outputDir) : Target settings .source file.path := by
  obtain ⟨rel, under, found⟩ := RegistrarFile.mem_scan.1 member
  obtain ⟨name, read, rfl⟩ := Option.map_eq_some_iff.1 found
  obtain ⟨below, file⟩ := wf.mem_filesBelow.1 (Disk.filesUnder_below under)
  exact .source (wf.properName_of_file below file) (RegistrarFile.entryNamed_of_className? read)

theorem of_existing (wf : disk.WellFormed) {scripts : ScriptSettings}
    (known : settings.scripts = some scripts)
    (member : path ∈ ScriptResource.existing disk scripts.outputDir) :
    Target settings .script path := by
  obtain ⟨rel, under, shown⟩ := List.mem_filterMap.1 member
  obtain ⟨below, file⟩ := wf.mem_filesBelow.1 (Disk.filesUnder_below under)
  split at shown
  · next resource =>
    cases shown
    exact .script known (wf.properName_of_file below file) resource
  · cases shown

/-! ### Written files -/

theorem of_place {n : DottedName} (plain : n.Plain) :
    Target settings .source (settings.outputDir.join ⟨Vocabulary.rootPackage :: place n⟩) := by
  have path : settings.outputDir.join ⟨Vocabulary.rootPackage :: place n⟩ =
      (root settings.outputDir).join ⟨place n⟩ := by
    simp [root, Path.join, Path.child]
  rw [path]
  exact .source (RegistrarFile.place_properName plain)
    (RegistrarFile.entryNamed_of_className? (RegistrarFile.className?_place plain))

theorem of_mainEntry : Target settings .source
    (settings.outputDir.join ⟨[Vocabulary.rootPackage, RegistrarFile.fileSuffix]⟩) := by
  rw [RegistrarFile.mainEntry_eq]
  exact .source (by decide) ⟨"", rfl⟩

theorem of_scriptFile {scripts : ScriptSettings} (known : settings.scripts = some scripts)
    {c : ClassDecl} (plain : c.name.Plain) (libraryPath : String) :
    Target settings .script (scripts.outputDir.join (ScriptResource.file c libraryPath).path) := by
  refine .script known (plain.file_properNames ".gdns" (by decide) (by decide)) ?_
  obtain ⟨some, noDot, -⟩ := plain c.name.name (List.mem_append_right _ List.mem_cons_self)
  have pieces : Text.split '.' (c.name.name ++ ".gdns") = [c.name.name, "gdns"] := by
    have cut := Text.split_append '.' c.name.name "gdns"
    rw [String.append_assoc] at cut
    refine cut.trans ?_
    simp [Text.split, Text.splitChars_of_notMem noDot, Text.splitChars]
  rw [List.getLastD_concat, ScriptResource.extension?, pieces]
  simp [some]

end Target

/-! ### Changes -/

namespace Change

/-- A change that writes no file, or one of this kind. -/
def Aims (settings : Settings) (kind : FileKind) (change : Change) : Prop :=
  ∀ path, change.written? = some path → Target settings kind path

variable {settings : Settings} {kind kind' : FileKind} {first later : Change}

theorem Aims.apart (aims : first.Aims settings kind) (aims' : later.Aims settings kind')
    (different : kind ≠ kind') {loc : Location} (writes : first.Writes loc) :
    ¬ later.Writes loc := by
  intro writes'
  obtain ⟨path, written, rfl⟩ := List.mem_map.1 (writes_iff.1 writes)
  obtain ⟨path', written', same⟩ := List.mem_map.1 (writes_iff.1 writes')
  exact different ((aims path (Option.mem_toList.1 written)).kind_unique
    (aims' path' (Option.mem_toList.1 written')) same.symm)

/-- Files of one kind that are written below one directory are told apart by their paths. -/
theorem apart_of_paths {base : Path} {files : List RenderedFile}
    (aims : ∀ file ∈ files, Target settings kind (base.join file.path))
    (distinct : (files.map RenderedFile.path).Nodup) : Apart (files.map (write base)) := by
  refine List.pairwise_map.2 ((List.pairwise_map.1 distinct).imp_of_mem ?_)
  intro file file' member member' different loc writes writes'
  have same : (base.join file.path).location = (base.join file'.path).location :=
    Eq.trans writes (Eq.symm writes')
  exact different (base.join_injective ((aims file member).path_unique (aims file' member') same))

end Change

namespace Pass

variable {settings : Settings} {classes : List ClassDecl} {names : List DottedName}
  {files : List RenderedFile} {entry : RenderedFile} {change : Change}

/-- The registrars of classes and the main entry, with the paths that they are written to. -/
structure SourceFiles (names : List DottedName) (files : List RenderedFile) (entry : RenderedFile) :
    Prop where
  plain : ∀ n ∈ names, n.Plain
  registrars : files.map RenderedFile.path =
    names.map fun n => ⟨Vocabulary.rootPackage :: place n⟩
  entry : entry.path = ⟨[Vocabulary.rootPackage, RegistrarFile.fileSuffix]⟩

theorem sourceFiles_of_registrars {index : ClassIndex} {ledger : NameLedger}
    (plain : ∀ c ∈ classes, c.name.Plain)
    (generated : registrars index {} classes = .ok (ledger, files))
    (written : mainEntry settings names = .ok entry) :
    SourceFiles (classes.map ClassDecl.name) files entry where
  plain := List.forall_mem_map.2 plain
  registrars := by
    rw [registrars_paths plain generated, List.map_map]
    rfl
  entry := by
    obtain ⟨file, -, -, path⟩ := mainEntry_ok written
    exact path

theorem SourceFiles.targets (sources : SourceFiles names files entry) :
    ∀ file ∈ files ++ [entry], Target settings .source (settings.outputDir.join file.path) := by
  intro file member
  rcases List.mem_append.1 member with registrar | main
  · have path := List.mem_map_of_mem (f := RenderedFile.path) registrar
    rw [sources.registrars] at path
    obtain ⟨n, listed, path⟩ := List.mem_map.1 path
    rw [← path]
    exact .of_place (sources.plain n listed)
  · rw [List.mem_singleton.1 main, sources.entry]
    exact .of_mainEntry

theorem SourceFiles.distinct (sources : SourceFiles names files entry) (once : names.Nodup) :
    ((files ++ [entry]).map RenderedFile.path).Nodup := by
  rw [List.map_append, sources.registrars, List.map_singleton, sources.entry]
  refine List.nodup_append.2 ⟨once.map_on ?_, List.nodup_singleton _, ?_⟩
  · intro n member n' member' same
    exact RegistrarFile.place_injective (sources.plain n member) (sources.plain n' member')
      (List.cons.inj (Path.mk.inj same)).2
  · intro path registrar path' main same
    obtain ⟨n, member, rfl⟩ := List.mem_map.1 registrar
    rw [List.mem_singleton.1 main] at same
    exact RegistrarFile.place_ne_fileSuffix (sources.plain n member)
      (List.cons.inj (Path.mk.inj same)).2

theorem SourceFiles.aims (sources : SourceFiles names files entry)
    (member : change ∈ (files ++ [entry]).map (.write settings.outputDir)) :
    change.Aims settings .source := by
  obtain ⟨file, listed, rfl⟩ := List.mem_map.1 member
  intro path written
  cases written
  exact sources.targets file listed

theorem writeService_aims (member : change ∈ writeService settings) :
    change.Aims settings .service := by
  obtain ⟨base, known, rfl⟩ := List.mem_map.1 member
  intro path written
  cases written
  exact .service (Option.mem_toList.1 known)

theorem writeScripts_aims (plain : ∀ c ∈ classes, c.name.Plain)
    (member : change ∈ writeScripts settings classes) : change.Aims settings .script := by
  unfold writeScripts at member
  split at member
  · cases member
  · next scripts known =>
    rcases List.mem_append.1 member with cleaning | writing
    · split at cleaning
      · rw [List.mem_singleton.1 cleaning]
        exact nofun
      · cases cleaning
    · obtain ⟨c, listed, rfl⟩ := List.mem_map.1 writing
      intro path written
      cases written
      exact .of_scriptFile known (plain c listed) _

theorem writeService_apart (settings : Settings) : Change.Apart (writeService settings) := by
  unfold writeService
  cases settings.projectRoot with
  | none => exact .nil
  | some base => exact List.pairwise_singleton _ _

theorem name_eq_of_scriptFile {c c' : ClassDecl} {libraryPath libraryPath' : String}
    (same : (ScriptResource.file c libraryPath).path = (ScriptResource.file c' libraryPath').path) :
    c.name = c'.name := by
  obtain ⟨package, name⟩ := List.append_inj' (Path.mk.inj same) rfl
  exact congrArg₂ DottedName.mk ((String.append_left_inj _).1 (List.cons.inj name).1) package

theorem scriptFiles_distinct (once : (classes.map ClassDecl.name).Nodup) (libraryPath : String) :
    ((classes.map fun c => ScriptResource.file c libraryPath).map RenderedFile.path).Nodup := by
  rw [List.map_map]
  exact (List.Nodup.of_map _ once).map_on fun c member c' member' same =>
    List.inj_on_of_nodup_map once member member' (name_eq_of_scriptFile same)

theorem writeScripts_apart (plain : ∀ c ∈ classes, c.name.Plain)
    (once : (classes.map ClassDecl.name).Nodup) :
    Change.Apart (writeScripts settings classes) := by
  unfold writeScripts
  split
  · exact .nil
  · next scripts known =>
    refine List.pairwise_append.2 ⟨?_, ?_, ?_⟩
    · split
      · exact List.pairwise_singleton _ _
      · exact .nil
    · have targets : ∀ file ∈ classes.map fun c => ScriptResource.file c scripts.libraryPath,
          Target settings .script (scripts.outputDir.join file.path) :=
        List.forall_mem_map.2 fun c listed => .of_scriptFile known (plain c listed) _
      have apart := Change.apart_of_paths targets (scriptFiles_distinct once _)
      rwa [List.map_map] at apart
    · intro first cleaning later _ loc writes
      split at cleaning
      · rw [List.mem_singleton.1 cleaning] at writes
        cases writes
      · cases cleaning

end Pass

end ScriptRegistrar
