import ScriptRegistrar.Proofs.Pass.Target

namespace ScriptRegistrar

open RegistrarFile (root scan written)

/-- From no directory do the two paths lead to one place. -/
def Path.Apart (p q : Path) : Prop :=
  ∀ base : Path, (base.join p).location ≠ (base.join q).location

theorem Path.apart_of_properNames {names names' : List String}
    (proper : ∀ name ∈ names, ProperName name) (proper' : ∀ name ∈ names', ProperName name)
    (different : names ≠ names') : Path.Apart ⟨names⟩ ⟨names'⟩ := by
  intro base same
  have joined := Path.join_eq_of_location proper proper' same
  exact different (Path.mk.inj (base.join_injective joined))

/-- Nothing that is written for one class can be taken for the other's. -/
structure FilesApart (a b : DottedName) : Prop where
  registrars : (written a).Apart (written b)
  scripts : ∀ c c' library library', c.name = a → c'.name = b →
    (ScriptResource.file c library).path.Apart (ScriptResource.file c' library').path
  registrarClasses : Vocabulary.registrarClass a ≠ Vocabulary.registrarClass b

namespace RegistrarFile

variable {a b n : DottedName} {disk : Disk} {output : Path}

theorem written_eq (plain : n.Plain) : written n = ⟨Vocabulary.rootPackage :: place n⟩ :=
  path_eq plain rfl rfl

theorem written_apart (ha : a.Plain) (hb : b.Plain) (different : a ≠ b) :
    (written a).Apart (written b) := by
  rw [written_eq ha, written_eq hb]
  refine Path.apart_of_properNames (rooted_properName ha) (rooted_properName hb) fun same => ?_
  exact different (place_injective ha hb (List.cons.inj same).2)

theorem written_apart_mainEntry (plain : n.Plain) :
    (written n).Apart ⟨[Vocabulary.rootPackage, fileSuffix]⟩ := by
  rw [written_eq plain]
  refine Path.apart_of_properNames (rooted_properName plain) (by decide) fun same => ?_
  exact place_ne_fileSuffix plain (List.cons.inj same).2

theorem found?_place (plain : n.Plain) :
    found? output (place n) = some ⟨n, output.join (written n)⟩ := by
  have path : (root output).join ⟨place n⟩ = output.join (written n) := by
    rw [written_eq plain]
    simp [root, Path.join, Path.child]
  rw [found?, className?_place plain, Option.map_some, path]

theorem mem_scan_written (plain : n.Plain) (wf : disk.WellFormed)
    (reached : (disk.find? (root output)).isSome)
    (there : disk.isFile (output.join (written n)).location = true) :
    ⟨n, output.join (written n)⟩ ∈ scan disk output := by
  obtain ⟨loc, found⟩ := Option.isSome_iff_exists.1 reached
  rw [written_eq plain, location_place output plain] at there
  refine mem_scan.2 ⟨place n, ?_, found?_place plain⟩
  rw [Disk.filesUnder, found, Disk.find?_eq_location found]
  exact wf.mem_filesBelow.2 ⟨place_below plain, there⟩

/-- A scan finds one file at a location, or none. -/
theorem scan_at (wf : disk.WellFormed) {file : RegistrarFile} (member : file ∈ scan disk output) :
    (scan disk output).filter (·.path.location = file.path.location) = [file] := by
  refine List.perm_singleton.1 ((List.perm_ext_iff_of_nodup ((scan_nodup wf output).filter _)
    (List.nodup_singleton file)).2 fun other => ?_)
  rw [List.mem_filter, List.mem_singleton, decide_eq_true_iff]
  constructor
  · rintro ⟨member', same⟩
    exact List.inj_on_of_nodup_map (scan_locations_nodup wf output) member' member same
  · rintro rfl
    exact ⟨member, rfl⟩

end RegistrarFile

theorem filesApart {a b : DottedName} (ha : a.Plain) (hb : b.Plain) (different : a ≠ b) :
    FilesApart a b where
  registrars := RegistrarFile.written_apart ha hb different
  scripts := by
    rintro c c' library library' rfl rfl
    have suffixed {n : DottedName} (plain : n.Plain) :=
      plain.file_properNames ".gdns" (by decide) (by decide)
    refine Path.apart_of_properNames (suffixed ha) (suffixed hb) fun same => ?_
    have paths : (ScriptResource.file c library).path = (ScriptResource.file c' library').path :=
      congrArg Path.mk same
    exact different (Pass.name_eq_of_scriptFile paths)
  registrarClasses same :=
    different (Vocabulary.registrarClass_injective ha.packageProper hb.packageProper same)

/-- Different classes have different files and registrars. No registrar stands where the main entry
does, and a scan that meets the registrar of a class recovers the class, whatever else is on the
disk. -/
theorem files_identify_classes {a b : DottedName} (ha : a.Plain) (hb : b.Plain) :
    (a ≠ b → FilesApart a b) ∧
    (∀ classes sourceDirs main, MainEntry.file classes sourceDirs = .ok main →
      (written a).Apart main.path) ∧
    ∀ (disk : Disk) (output : Path), disk.WellFormed → (disk.find? (root output)).isSome →
      disk.isFile (output.join (written a)).location = true →
      (scan disk output).filter (·.path.location = (output.join (written a)).location) =
        [⟨a, output.join (written a)⟩] := by
  refine ⟨filesApart ha hb, fun classes sourceDirs main built => ?_,
    fun disk output wf reached there => ?_⟩
  · rw [Pass.path_of_mainEntry built]
    exact RegistrarFile.written_apart_mainEntry ha
  · exact RegistrarFile.scan_at wf (RegistrarFile.mem_scan_written ha wf reached there)

namespace Sample

/-- Registrars of classes that are named like entries, and the main entry. -/
def entries : Disk :=
  ⟨[(["out", "godot", "Entry.kt"], .file ""), (["out", "godot", "EntryEntry.kt"], .file ""),
    (["out", "godot", "Entry", "Entry.kt"], .file ""),
    (["out", "godot", "Entry", "EntryEntryEntry.kt"], .file ""),
    (["out", "godot", "Entry"], .directory), (["out", "godot"], .directory),
    (["out"], .directory)]⟩

end Sample

/-- A class `Entry` without a package, and `EntryEntry` in a package `Entry`. -/
theorem entry_found_among_entries :
    FilesApart (.parse "Entry") (.parse "Entry.EntryEntry") ∧
      (∃ main, MainEntry.file [.parse "Entry"] ["src"] = .ok main ∧
        (written (.parse "Entry")).Apart main.path) ∧
      (scan Sample.entries (.ofText "out")).filter
          (·.path.location = ["out", "godot", "EntryEntry.kt"]) =
        [⟨.parse "Entry", .mk ["out", "godot", "EntryEntry.kt"]⟩] := by
  obtain ⟨apart, main, found⟩ := files_identify_classes
    (a := .parse "Entry") (b := .parse "Entry.EntryEntry") (by decide +kernel) (by decide +kernel)
  have location : ((Path.ofText "out").join (written (.parse "Entry"))).location =
      ["out", "godot", "EntryEntry.kt"] := by
    decide +kernel
  have path : (Path.ofText "out").join (written (.parse "Entry")) =
      .mk ["out", "godot", "EntryEntry.kt"] := by
    decide +kernel
  refine ⟨apart (by decide +kernel), ?_, ?_⟩
  · obtain ⟨file, built, -⟩ := (MainEntry.file_balanced [.parse "Entry"] ["src"]).exists_ok
    exact ⟨file, built, main _ _ _ built⟩
  · have wf : Sample.entries.WellFormed := .of_properNames (by decide) (by decide)
    have scanned := found Sample.entries (.ofText "out") wf (by decide +kernel) (by
      rw [location]
      decide)
    rwa [location, path] at scanned

end ScriptRegistrar
