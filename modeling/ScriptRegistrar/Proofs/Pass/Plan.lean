import ScriptRegistrar.Proofs.Output
import ScriptRegistrar.Proofs.Pass.Effects
import ScriptRegistrar.Proofs.Registration.Hierarchy

namespace ScriptRegistrar

open Source (RenderedFile FileText)

inductive PassRequest where
  | generate (settings : Settings) (graph : Graph)
  | refresh (settings : Settings) (sources : List DottedName)

namespace PassRequest

def settings : PassRequest → Settings
  | generate settings _ => settings
  | refresh settings _ => settings

/-- The classes that registrars may be kept for. -/
def sources : PassRequest → List DottedName
  | generate _ graph => graph.sourceClassNames
  | refresh _ sources => sources

def regenerated : PassRequest → List DottedName
  | generate _ graph => graph.registeredClasses.map ClassDecl.name
  | refresh _ _ => []

def plan : PassRequest → Disk → Except GenerationError Pass
  | generate settings graph, disk => Pass.planGenerate settings graph disk
  | refresh settings sources, disk => Pass.planRefresh settings sources disk

def run : PassRequest → Disk → Outcome
  | generate settings graph, disk => Pass.generate settings graph disk
  | refresh settings sources, disk => Pass.refresh settings sources disk

theorem run_eq (request : PassRequest) (disk : Disk) :
    request.run disk = Pass.execute (request.plan disk) disk := by
  cases request <;> rfl

def entryPlan (request : PassRequest) (disk : Disk) : EntryPlan :=
  Pass.entryPlan request.settings disk request.sources request.regenerated

end PassRequest

theorem Source.FileText.render_ok {file : FileText} {rendered : RenderedFile}
    (h : file.render = .ok rendered) :
    rendered.path = file.path ∧ file.write = .ok rendered.contents := by
  obtain ⟨contents, written, h⟩ := bind_ok h
  rw [pure_ok h]
  exact ⟨rfl, written⟩

namespace Pass

theorem registrars_paths {index : ClassIndex} {ledger ledger' : NameLedger}
    {classes : List ClassDecl} {files : List RenderedFile} (plain : ∀ c ∈ classes, c.name.Plain)
    (h : registrars index ledger classes = .ok (ledger', files)) :
    files.map RenderedFile.path =
      classes.map fun c => ⟨Vocabulary.rootPackage :: RegistrarFile.place c.name⟩ := by
  induction classes generalizing ledger ledger' files with
  | nil =>
    cases h
    rfl
  | cons c classes ih =>
    rw [registrars] at h
    cases generated : Registrar.generate index ledger c with
    | mk next result =>
      rw [generated] at h
      obtain ⟨registrar, succeeded, h⟩ := bind_ok h
      obtain ⟨file, rendered, h⟩ := bind_ok h
      obtain ⟨⟨last, others⟩, rest, h⟩ := bind_ok h
      obtain ⟨-, rfl⟩ := Prod.mk.inj (pure_ok h)
      rw [succeeded] at generated
      obtain ⟨package, name⟩ := Registrar.generate_names generated
      have first := (Source.FileText.render_ok (mapError_ok rendered)).1
      rw [RegistrarFile.path_eq (plain c List.mem_cons_self) package name] at first
      rw [List.map_cons, List.map_cons, first,
        ih (fun other member => plain other (List.mem_cons_of_mem _ member)) rest]

/-- The main entry is the one file whose name is only the ending of a registrar file's. -/
theorem path_of_mainEntry {classes : List DottedName} {sourceDirs : List String} {file : FileText}
    (h : MainEntry.file classes sourceDirs = .ok file) :
    file.path = ⟨[Vocabulary.rootPackage, RegistrarFile.fileSuffix]⟩ := by
  obtain ⟨init, -, h⟩ := bind_ok h
  obtain ⟨engine, -, h⟩ := bind_ok h
  obtain ⟨dirs, -, h⟩ := bind_ok h
  have pieces : (Text.split '.' Vocabulary.rootPackage).filter (· ≠ "") ++
      [MainEntry.name ++ ".kt"] = [Vocabulary.rootPackage, RegistrarFile.fileSuffix] := by
    decide
  rw [pure_ok h]
  exact congrArg Path.mk pieces

theorem mainEntry_ok {settings : Settings} {classes : List DottedName} {entry : RenderedFile}
    (h : mainEntry settings classes = .ok entry) :
    ∃ file, MainEntry.file classes settings.sourceDirs = .ok file ∧
      file.write = .ok entry.contents ∧
      entry.path = ⟨[Vocabulary.rootPackage, RegistrarFile.fileSuffix]⟩ := by
  obtain ⟨file, built, h⟩ := bind_ok h
  obtain ⟨path, written⟩ := Source.FileText.render_ok (mapError_ok h)
  exact ⟨file, built, written, path.trans (path_of_mainEntry built)⟩

structure Renews (pass : Pass) (request : PassRequest) (plan : EntryPlan)
    (files : List RenderedFile) (entry : RenderedFile) (others : List Change) : Prop where
  changes : pass.changes = plan.stale.map .deleteStale ++
    (files ++ [entry]).map (.write request.settings.outputDir) ++ others
  registrars : files.map RenderedFile.path = request.regenerated.map fun n =>
    ⟨Vocabulary.rootPackage :: RegistrarFile.place n⟩
  entry : mainEntry request.settings (request.regenerated ++ plan.survivors) = .ok entry
  spared : ∀ loc, RegistrarFile.EntryNamed loc → ∀ change ∈ others, change.Spares loc

theorem location_serviceFile (root : Path) :
    (root.join MainEntry.serviceFile.path).location = root.location ++
      ["src", "main", "resources", "META-INF", "services", "godot.runtime.Entry"] := by
  have names : Text.split '/' "src/main/resources/META-INF/services/godot.runtime.Entry" =
      ["src", "main", "resources", "META-INF", "services", "godot.runtime.Entry"] := by
    decide +kernel
  have proper : ∀ name ∈ Text.split '/' "src/main/resources/META-INF/services/godot.runtime.Entry",
      Path.ProperName name := by
    rw [names]
    decide
  rw [← names]
  exact Path.location_join_ofText root _ (by decide) proper

theorem writeService_spares {settings : Settings} {loc : Location}
    (named : RegistrarFile.EntryNamed loc) {change : Change}
    (member : change ∈ writeService settings) : change.Spares loc := by
  obtain ⟨root, -, rfl⟩ := List.mem_map.1 member
  rintro rfl
  have ending := named.getLast?
  rw [location_serviceFile, Path.getLastD_append (List.cons_ne_nil _ _)] at ending
  revert ending
  decide

theorem writeScripts_spares {settings : Settings} {classes : List ClassDecl}
    (plain : ∀ c ∈ classes, c.name.Plain) {loc : Location}
    (named : RegistrarFile.EntryNamed loc) {change : Change}
    (member : change ∈ writeScripts settings classes) : change.Spares loc := by
  unfold writeScripts at member
  split at member
  · cases member
  · next scripts _ =>
    rcases List.mem_append.1 member with cleaning | writing
    · split at cleaning
      · rw [List.mem_singleton.1 cleaning]
        exact named.extension?
      · cases cleaning
    · obtain ⟨c, registered, rfl⟩ := List.mem_map.1 writing
      have place := Path.location_join_properNames scripts.outputDir
        ((plain c registered).file_properNames ".gdns" (by decide) (by decide))
      rintro rfl
      have ending := named.getLast?
      rw [ScriptResource.file, place, Path.getLastD_append (by simp), List.getLastD_concat,
        String.toList_append, List.getLast?_append_of_ne_nil _ (by decide)] at ending
      revert ending
      decide

end Pass

theorem PassRequest.plan_renews {request : PassRequest} {disk : Disk} {pass : Pass}
    (plain : ∀ n ∈ request.regenerated, n.Plain) (h : request.plan disk = .ok pass) :
    ∃ files entry others, pass.Renews request (request.entryPlan disk) files entry others := by
  cases request with
  | generate settings graph =>
    have plain' : ∀ c ∈ graph.registeredClasses, c.name.Plain := fun c member =>
      plain c.name (List.mem_map_of_mem member)
    obtain ⟨⟨ledger, files⟩, generated, h⟩ := bind_ok h
    obtain ⟨-, -, h⟩ := bind_ok h
    obtain ⟨entry, written, h⟩ := bind_ok h
    refine ⟨files, entry, Pass.writeService settings ++
      Pass.writeScripts settings graph.registeredClasses, ?_⟩
    rw [pure_ok h]
    refine ⟨by rw [← List.append_assoc]; rfl, ?_, written, ?_⟩
    · rw [Pass.registrars_paths plain' generated, regenerated, List.map_map]
      rfl
    · intro loc named change member
      rcases List.mem_append.1 member with service | scripts
      · exact Pass.writeService_spares named service
      · exact Pass.writeScripts_spares plain' named scripts
  | refresh settings sources =>
    obtain ⟨entry, written, h⟩ := bind_ok h
    refine ⟨[], entry, [], ?_⟩
    rw [pure_ok h]
    exact ⟨(List.append_nil _).symm, rfl, written, by simp⟩

end ScriptRegistrar
