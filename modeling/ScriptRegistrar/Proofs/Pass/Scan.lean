import ScriptRegistrar.Proofs.Pass.Renewal
import ScriptRegistrar.Proofs.Sorting

namespace ScriptRegistrar

theorem Disk.WellFormed.filesUnder_nodup {d : Disk} (wf : d.WellFormed) (p : Path) :
    (d.filesUnder p).Nodup := by
  unfold Disk.filesUnder
  split
  · exact wf.filesBelow_nodup _
  · exact .nil

namespace RegistrarFile

variable {disk : Disk} {output : Path}

/-- The registrar file at a place below the directory of all generated files. -/
def found? (output : Path) (relative : Location) : Option RegistrarFile :=
  (className? relative).map fun name => ⟨name, (root output).join ⟨relative⟩⟩

theorem scan_perm (disk : Disk) (output : Path) :
    (scan disk output).Perm ((disk.filesUnder (root output)).filterMap (found? output)) :=
  sortOn_perm _ _

theorem mem_scan {file : RegistrarFile} :
    file ∈ scan disk output ↔
      ∃ rel ∈ disk.filesUnder (root output), found? output rel = some file := by
  rw [(scan_perm disk output).mem_iff, List.mem_filterMap]

theorem found?_className {rel : Location} {file : RegistrarFile}
    (h : found? output rel = some file) : className? rel = some file.className := by
  obtain ⟨name, read, rfl⟩ := Option.map_eq_some_iff.1 h
  exact read

theorem location_of_found? (wf : disk.WellFormed) {rel : Location} {file : RegistrarFile}
    (under : rel ∈ disk.filesUnder (root output)) (h : found? output rel = some file) :
    file.path.location = (root output).location ++ rel := by
  obtain ⟨name, -, rfl⟩ := Option.map_eq_some_iff.1 h
  exact (wf.location_of_filesUnder under).1

theorem scan_nodup (wf : disk.WellFormed) (output : Path) : (scan disk output).Nodup := by
  rw [(scan_perm disk output).nodup_iff]
  refine (wf.filesUnder_nodup _).filterMap fun rel rel' file h h' => ?_
  obtain ⟨name, -, rfl⟩ := Option.map_eq_some_iff.1 h
  obtain ⟨name', -, same⟩ := Option.map_eq_some_iff.1 h'
  have pieces := congrArg (fun file : RegistrarFile => file.path.pieces) same
  exact (List.append_cancel_left pieces).symm

theorem scan_locations_nodup (wf : disk.WellFormed) (output : Path) :
    ((scan disk output).map (·.path.location)).Nodup := by
  refine (scan_nodup wf output).map_on fun file member file' member' same => ?_
  obtain ⟨rel, under, found⟩ := mem_scan.1 member
  obtain ⟨rel', under', found'⟩ := mem_scan.1 member'
  rw [location_of_found? wf under found, location_of_found? wf under' found'] at same
  rw [List.append_cancel_left same, found'] at found
  exact (Option.some.inj found).symm

theorem scan_classes_perm (disk : Disk) (output : Path) :
    ((scan disk output).map className).Perm
      ((disk.filesUnder (root output)).filterMap className?) := by
  have classes : ((disk.filesUnder (root output)).filterMap (found? output)).map className =
      (disk.filesUnder (root output)).filterMap className? := by
    rw [List.map_filterMap]
    refine List.filterMap_congr fun rel _ => ?_
    unfold found?
    cases className? rel <;> rfl
  exact classes ▸ (scan_perm disk output).map className

theorem scan_classes_sorted (disk : Disk) (output : Path) :
    ((scan disk output).map className).Pairwise fun a b => (compare a b).isLE :=
  List.pairwise_map.2 (sortOn_pairwise _)

/-! ### Files in their places -/

/-- Where a pass writes the registrar of a class. -/
def written (n : DottedName) : Path :=
  Source.FileText.path
    { package := Vocabulary.generatedPackage n, name := Vocabulary.registrarFileName n }

/-- Every registrar file stands where a pass writes the registrar of its class. -/
def InPlace (disk : Disk) (output : Path) : Prop :=
  ∀ file ∈ scan disk output, file.path.location = (output.join (written file.className)).location

theorem scan_classes_nodup (wf : disk.WellFormed) (inPlace : InPlace disk output) :
    ((scan disk output).map className).Nodup := by
  refine (scan_nodup wf output).map_on fun file member file' member' same => ?_
  refine List.inj_on_of_nodup_map (scan_locations_nodup wf output) member member' ?_
  rw [inPlace file member, inPlace file' member', same]

end RegistrarFile

/-! ### Survivors -/

namespace EntryPlan

theorem survivors_nodup {existing : List RegistrarFile}
    (distinct : (existing.map RegistrarFile.className).Nodup)
    (sources regenerated : List DottedName) :
    (EntryPlan.of existing sources regenerated).survivors.Nodup :=
  distinct.filter _

open RegistrarFile (root scan className?)

/-- The survivors depend on where the files of their classes are, and on nothing else. -/
theorem survivors_eq {disk disk' : Disk} {output : Path} {sources regenerated : List DottedName}
    (wf : disk.WellFormed) (wf' : disk'.WellFormed)
    (same : ∀ rel n, className? rel = some n → n ∈ sources → n ∉ regenerated →
      (rel ∈ disk.filesUnder (root output) ↔ rel ∈ disk'.filesUnder (root output))) :
    (EntryPlan.of (scan disk output) sources regenerated).survivors =
      (EntryPlan.of (scan disk' output) sources regenerated).survivors := by
  have perm := RegistrarFile.scan_classes_perm disk output
  have perm' := RegistrarFile.scan_classes_perm disk' output
  have sorted := RegistrarFile.scan_classes_sorted disk output
  have sorted' := RegistrarFile.scan_classes_sorted disk' output
  refine eq_of_sorted_perm ((perm.filter _).trans (.trans ?_ (perm'.filter _).symm))
    (fun _ _ _ _ same => same) (sorted.filter _) (sorted'.filter _)
  rw [List.filter_filterMap, List.filter_filterMap]
  refine filterMap_perm (wf.filesUnder_nodup _) (wf'.filesUnder_nodup _) fun rel n shown => ?_
  obtain ⟨read, survives⟩ := Option.filter_eq_some_iff.1 shown
  simp only [Bool.and_eq_true, List.contains_iff_mem, Bool.not_eq_true', ← Bool.not_eq_true]
    at survives
  exact same rel n read survives.1 survives.2

end EntryPlan

end ScriptRegistrar
