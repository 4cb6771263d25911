import Mathlib.Data.List.Nodup
import ScriptRegistrar.Proofs.Pass.Renewal
import ScriptRegistrar.Proofs.Sorting

/-!
# The main entry and the registrars on disk

After every pass the main entry calls the registrars that are on the disk. The one thing that a pass
takes on trust is that it finds them: a path that climbs out of a directory leads nowhere until that
directory is made.
-/

namespace ScriptRegistrar

open RegistrarFile (root scan className className? place)

/-- Where the path to the generated files leads nowhere, no registrar is at the location that it
names. -/
def Disk.Visible (d : Disk) (output : Path) : Prop :=
  d.find? (root output) = none → ∀ rel ∈ d.filesBelow (root output).location, className? rel = none

theorem Disk.Reaches.visible {d : Disk} {output : Path} (h : d.Reaches (root output)) :
    d.Visible output := by
  intro none
  rw [h.found] at none
  cases none

theorem Disk.Closed.visible {d : Disk} (closed : d.Closed) (wf : d.WellFormed) {output : Path}
    (noClimb : ".." ∉ (root output).route.names) : d.Visible output := by
  intro none rel member
  obtain ⟨⟨name, rest, rfl, -⟩, file⟩ := wf.mem_filesBelow.1 member
  obtain ⟨text, there⟩ := Disk.node?_of_isFile file
  have reaches := closed.reaches wf (RegistrarFile.text_root output) noClimb
    (List.cons_ne_nil name rest) there
  rw [reaches.found] at none
  cases none

theorem Disk.Visible.mem_filesUnder {d : Disk} {output : Path} (visible : d.Visible output)
    {rel : Location} {n : DottedName} (read : className? rel = some n) :
    rel ∈ d.filesUnder (root output) ↔ rel ∈ d.filesBelow (root output).location := by
  refine ⟨Disk.filesUnder_below, fun below => ?_⟩
  cases found : d.find? (root output) with
  | none =>
    rw [visible found rel below] at read
    cases read
  | some loc =>
    rw [Disk.filesUnder, found, Disk.find?_eq_location found]
    exact below

theorem Disk.Visible.mem_scan {d : Disk} {output : Path} (visible : d.Visible output)
    (wf : d.WellFormed) {n : DottedName} :
    n ∈ (scan d output).map className ↔
      ∃ rel, className? rel = some n ∧ Disk.Below rel ∧
        d.isFile ((root output).location ++ rel) = true := by
  rw [RegistrarFile.scan_classes]
  constructor
  · rintro ⟨rel, under, read⟩
    exact ⟨rel, read, wf.mem_filesBelow.1 ((visible.mem_filesUnder read).1 under)⟩
  · rintro ⟨rel, read, there⟩
    exact ⟨rel, (visible.mem_filesUnder read).2 (wf.mem_filesBelow.2 there), read⟩

/-! ### One pass -/

structure PassRequest.Allowed (request : PassRequest) (output : Path) : Prop where
  output : request.settings.outputDir = output
  plain : ∀ n ∈ request.regenerated, n.Plain

theorem Renewed.mem_scan {request : PassRequest} {before after : Disk} {contents : String}
    (h : Renewed request before after contents) (plain : ∀ n ∈ request.regenerated, n.Plain)
    (wf : before.WellFormed) (visible : before.Visible request.settings.outputDir)
    {n : DottedName} :
    n ∈ (scan after request.settings.outputDir).map className ↔
      n ∈ request.regenerated ∨
        n ∈ (scan before request.settings.outputDir).map className ∧ n ∈ request.sources := by
  rw [h.reaches.visible.mem_scan (h.keeps.wellFormed wf), visible.mem_scan wf]
  constructor
  · rintro ⟨rel, read, below, file⟩
    rcases (h.registrars rel n read).1 file with written | ⟨there, kept⟩
    · obtain ⟨m, member, rfl⟩ := List.mem_map.1 written
      obtain rfl := RegistrarFile.eq_of_className?_place (plain m member) read
      exact .inl member
    · have under := (visible.mem_filesUnder read).2 (wf.mem_filesBelow.2 ⟨below, there⟩)
      exact .inr ⟨⟨rel, read, below, there⟩, kept under⟩
  · rintro (member | ⟨⟨rel, read, below, there⟩, source⟩)
    · have read := RegistrarFile.className?_place (plain n member)
      exact ⟨place n, read, RegistrarFile.place_below (plain n member),
        (h.registrars _ _ read).2 (.inl (List.mem_map_of_mem member))⟩
    · exact ⟨rel, read, below, (h.registrars rel n read).2 (.inr ⟨there, fun _ => source⟩)⟩

/-- The main entry on the disk after a pass calls the registrars of the classes in `called`, and
those are the registrars on the disk. -/
structure Coherent (request : PassRequest) (before after : Disk) (called : List DottedName) :
    Prop where
  entry : ∃ classes file text,
    MainEntry.file classes request.settings.sourceDirs = .ok file ∧ file.write = .ok text ∧
      after.readAt? (RegistrarFile.mainEntry request.settings.outputDir) = some text ∧
      file.registrarCalls = called.map Vocabulary.registrarClass
  once : (called.map Vocabulary.registrarClass).Nodup
  increasing : called.Pairwise fun a b => compare a b = .lt
  registrars : ∀ n, n ∈ (scan after request.settings.outputDir).map className ↔ n ∈ called
  classes : ∀ n, n ∈ called ↔ n ∈ request.regenerated ∨
    n ∈ (scan before request.settings.outputDir).map className ∧ n ∈ request.sources ∧
      n ∉ request.regenerated

theorem PassRequest.mem_survivors {request : PassRequest} {disk : Disk} {n : DottedName} :
    n ∈ (request.entryPlan disk).survivors ↔
      n ∈ (scan disk request.settings.outputDir).map className ∧ n ∈ request.sources ∧
        n ∉ request.regenerated := by
  unfold entryPlan Pass.entryPlan EntryPlan.of
  rw [List.mem_filter]
  simp

theorem PassRequest.renewed {request : PassRequest} {disk : Disk} {report : Report}
    (plain : ∀ n ∈ request.regenerated, n.Plain) (wf : disk.WellFormed)
    (ok : (request.run disk).result = .ok report) :
    ∃ entry, Pass.mainEntry request.settings
        (request.regenerated ++ (request.entryPlan disk).survivors) = .ok entry ∧
      Renewed request disk (request.run disk).disk entry.contents := by
  rw [run_eq] at ok ⊢
  cases planned : request.plan disk with
  | error e =>
    rw [planned] at ok
    cases ok
  | ok pass =>
    rw [planned] at ok
    obtain ⟨files, entry, others, renews⟩ := plan_renews plain planned
    exact ⟨entry, renews.entry, renews.renewed plain wf ok⟩

theorem nodup_registrarClass {called : List DottedName}
    (increasing : called.Pairwise fun a b => compare a b = .lt)
    (proper : ∀ n ∈ called, n.PackageProper) :
    (called.map Vocabulary.registrarClass).Nodup :=
  (nodup_of_increasing increasing).map_on fun a ha b hb =>
    Vocabulary.registrarClass_injective (proper a ha) (proper b hb)

/-- The classes whose registrars the main entry is to call. -/
def PassRequest.called (request : PassRequest) (disk : Disk) : List DottedName :=
  distinctSorted (request.regenerated ++ (request.entryPlan disk).survivors)

theorem PassRequest.mem_called {request : PassRequest} {disk : Disk} {n : DottedName} :
    n ∈ request.called disk ↔ n ∈ request.regenerated ∨
      n ∈ (scan disk request.settings.outputDir).map className ∧ n ∈ request.sources ∧
        n ∉ request.regenerated := by
  rw [called, mem_distinctSorted, List.mem_append, mem_survivors]

theorem PassRequest.called_packageProper {request : PassRequest} {disk : Disk}
    (plain : ∀ n ∈ request.regenerated, n.Plain) :
    ∀ n ∈ request.called disk, n.PackageProper := by
  intro n member
  rcases mem_called.1 member with regenerated | ⟨there, -⟩
  · exact (plain n regenerated).packageProper
  · exact RegistrarFile.scan_packageProper there

theorem PassRequest.coherent {request : PassRequest} {disk : Disk} {report : Report}
    (plain : ∀ n ∈ request.regenerated, n.Plain) (wf : disk.WellFormed)
    (visible : disk.Visible request.settings.outputDir)
    (ok : (request.run disk).result = .ok report) :
    Coherent request disk (request.run disk).disk (request.called disk) := by
  obtain ⟨entry, written, renewed⟩ := request.renewed plain wf ok
  obtain ⟨file, built, text, -⟩ := Pass.mainEntry_ok written
  have increasing : (request.called disk).Pairwise fun a b => compare a b = .lt :=
    distinctSorted_pairwise _
  constructor
  case entry =>
    exact ⟨_, file, entry.contents, built, text, renewed.entry, MainEntry.registrarCalls_file built⟩
  case once => exact nodup_registrarClass increasing (request.called_packageProper plain)
  case increasing => exact increasing
  case registrars =>
    intro n
    rw [PassRequest.mem_called, renewed.mem_scan plain wf visible]
    by_cases regenerated : n ∈ request.regenerated <;> simp [regenerated]
  case classes => exact fun n => PassRequest.mem_called

/-! ### Passes one after the other -/

inductive Reached (output : Path) (start : Disk) : Disk → Prop
  | start : Reached output start start
  | pass {disk : Disk} {request : PassRequest} {report : Report}
    (earlier : Reached output start disk) (allowed : request.Allowed output)
    (ok : (request.run disk).result = .ok report) :
    Reached output start (request.run disk).disk

theorem Reached.sound {output : Path} {start disk : Disk} (wf : start.WellFormed)
    (visible : start.Visible output) (h : Reached output start disk) :
    disk.WellFormed ∧ disk.Visible output := by
  induction h with
  | start => exact ⟨wf, visible⟩
  | pass _ allowed ok ih =>
    obtain ⟨entry, -, renewed⟩ := PassRequest.renewed allowed.plain ih.1 ok
    refine ⟨renewed.keeps.wellFormed ih.1, Disk.Reaches.visible ?_⟩
    rw [← allowed.output]
    exact renewed.reaches

theorem entry_matches_registrars {output : Path} {start disk : Disk} (wf : start.WellFormed)
    (visible : start.Visible output) (earlier : Reached output start disk) {request : PassRequest}
    (allowed : request.Allowed output) {report : Report}
    (ok : (request.run disk).result = .ok report) :
    ∃ called, Coherent request disk (request.run disk).disk called := by
  obtain ⟨wf', visible'⟩ := earlier.sound wf visible
  rw [← allowed.output] at visible'
  exact ⟨_, request.coherent allowed.plain wf' visible' ok⟩

/-! ### A class that is gone and one that is new -/

namespace Sample

def before : Disk :=
  ⟨[(["out", "godot", "game", "GoneEntry.kt"], .file ""),
    (["out", "godot", "game", "OldEntry.kt"], .file ""), (["out", "godot", "game"], .directory),
    (["out", "godot"], .directory), (["out"], .directory)]⟩

def sources : List DottedName := [.parse "game.Old", .parse "game.Player"]

def playing : Graph where
  classes := [
    ClassDecl.registered { name := .parse "game.Player", superClass := some (.parse "godot.Node") }]
  dependencies := [node]
  sourceClasses := sources

def refreshing : PassRequest := .refresh { outputDir := .ofText "out" } sources

def generating : PassRequest := .generate { outputDir := .ofText "out" } playing

/-- The way to the same directory through one that is not there. -/
def climbing : PassRequest := .refresh { outputDir := .ofText "new/../out" } sources

end Sample

theorem before_wellFormed : Sample.before.WellFormed := .of_properNames (by decide) (by decide)

theorem player_joins :
    Sample.before.WellFormed ∧ Sample.before.Visible (.ofText "out") ∧
      Reached (.ofText "out") Sample.before (Sample.refreshing.run Sample.before).disk ∧
      Sample.generating.Allowed (.ofText "out") ∧
      ∃ report, (Sample.generating.run (Sample.refreshing.run Sample.before).disk).result =
          .ok report ∧
        ∃ called, Coherent Sample.generating (Sample.refreshing.run Sample.before).disk
          (Sample.generating.run (Sample.refreshing.run Sample.before).disk).disk called := by
  have visible : Sample.before.Visible (.ofText "out") := fun none =>
    absurd none (by decide +kernel)
  have allowed : Sample.refreshing.Allowed (.ofText "out") := ⟨rfl, by decide⟩
  have allowed' : Sample.generating.Allowed (.ofText "out") := ⟨rfl, by decide +kernel⟩
  obtain ⟨report, ok, -⟩ := exists_ok_of_map
    (x := (Sample.refreshing.run Sample.before).result) (f := Report.surviving) (v := 1)
    (by decide +kernel)
  obtain ⟨report', ok', -⟩ := exists_ok_of_map
    (x := (Sample.generating.run (Sample.refreshing.run Sample.before).disk).result)
    (f := Report.surviving) (v := 1) (by decide +kernel)
  have reached := Reached.start.pass allowed ok
  exact ⟨before_wellFormed, visible, reached, allowed', report', ok',
    entry_matches_registrars before_wellFormed visible reached allowed' ok'⟩

/-- The registrars are found only after the pass has made the directory that the path climbs out
of, so the main entry calls none of them. -/
theorem climbing_drifts :
    Sample.before.WellFormed ∧ Sample.before.Closed ∧
      Sample.climbing.Allowed (.ofText "new/../out") ∧
      (∃ report, (Sample.climbing.run Sample.before).result = .ok report) ∧
      (∃ file text, MainEntry.file [] [] = .ok file ∧ file.write = .ok text ∧
        (Sample.climbing.run Sample.before).disk.readAt?
          (RegistrarFile.mainEntry (.ofText "new/../out")) = some text ∧
        file.registrarCalls = []) ∧
      .parse "game.Old" ∈
        (scan (Sample.climbing.run Sample.before).disk (.ofText "new/../out")).map className ∧
      ¬ ∃ called, Coherent Sample.climbing Sample.before (Sample.climbing.run Sample.before).disk
        called := by
  have closed : Sample.before.Closed := by
    unfold Disk.Closed
    decide
  have allowed : Sample.climbing.Allowed (.ofText "new/../out") := ⟨rfl, by decide⟩
  obtain ⟨report, ok, -⟩ := exists_ok_of_map (x := (Sample.climbing.run Sample.before).result)
    (f := Report.surviving) (v := 0) (by decide +kernel)
  have none : (Sample.climbing.entryPlan Sample.before).survivors = [] := by decide +kernel
  have old : .parse "game.Old" ∈
      (scan (Sample.climbing.run Sample.before).disk (.ofText "new/../out")).map className := by
    decide +kernel
  refine ⟨before_wellFormed, closed, allowed, ⟨report, ok⟩, ?_, old, ?_⟩
  · obtain ⟨entry, written, renewed⟩ := PassRequest.renewed allowed.plain before_wellFormed ok
    rw [none] at written
    obtain ⟨file, built, text, -⟩ := Pass.mainEntry_ok written
    exact ⟨file, entry.contents, built, text, renewed.entry, MainEntry.registrarCalls_file built⟩
  · rintro ⟨called, coherent⟩
    have absent : .parse "game.Old" ∉
        (scan Sample.before (.ofText "new/../out")).map className := by
      decide +kernel
    rcases (coherent.classes _).1 ((coherent.registrars _).1 old) with written | ⟨there, -⟩
    · cases written
    · exact absent there

end ScriptRegistrar
