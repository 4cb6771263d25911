import ScriptRegistrar.Pass.Basic
import ScriptRegistrar.Proofs.Disk.Walk

namespace ScriptRegistrar

namespace Disk

theorem filesUnder_below {d : Disk} {p : Path} {rel : Location} (h : rel ∈ d.filesUnder p) :
    rel ∈ d.filesBelow p.location := by
  unfold filesUnder at h
  split at h
  · next loc found => rwa [← find?_eq_location found]
  · cases h

theorem Reaches.filesUnder {d : Disk} {p : Path} (h : d.Reaches p) :
    d.filesUnder p = d.filesBelow p.location := by
  unfold Disk.filesUnder
  rw [h.found]

theorem WellFormed.location_of_filesUnder {d : Disk} (wf : d.WellFormed) {p : Path}
    {rel : Location} (h : rel ∈ d.filesUnder p) :
    (p.join ⟨rel⟩).location = p.location ++ rel ∧ rel ≠ [] ∧
      d.isFile (p.location ++ rel) = true := by
  obtain ⟨below, file⟩ := wf.mem_filesBelow.1 (filesUnder_below h)
  refine ⟨Path.location_join_properNames p (wf.properName_of_file below file), ?_, file⟩
  obtain ⟨name, rest, rfl, -⟩ := below
  exact List.cons_ne_nil name rest

theorem foldl_erase_read? (d : Disk) (locs : List Location) (other : Location) :
    (locs.foldl erase d).read? other = if other ∈ locs then none else d.read? other := by
  induction locs generalizing d with
  | nil => simp
  | cons loc locs ih =>
    rw [List.foldl_cons, ih, read?_erase]
    by_cases same : other = loc <;> simp [same]

theorem foldl_erase_wellFormed {d : Disk} (wf : d.WellFormed) (locs : List Location) :
    (locs.foldl erase d).WellFormed := by
  induction locs generalizing d with
  | nil => exact wf
  | cons loc locs ih => exact ih (wf.erase loc)

theorem foldl_erase_sameTree {d : Disk} {locs : List Location}
    (files : ∀ loc ∈ locs, d.node? loc ≠ some .directory) : d.SameTree (locs.foldl erase d) := by
  induction locs generalizing d with
  | nil => exact .refl d
  | cons loc locs ih =>
    refine (erase_sameTree (files loc List.mem_cons_self)).trans (ih fun other member => ?_)
    rw [node?_erase]
    split
    · exact (Option.some_ne_none _).symm
    · exact files other (List.mem_cons_of_mem _ member)

end Disk

namespace Progress

theorem delete_ok {p p' : Progress} {path : Path} (h : p.delete path = (p', none)) :
    p.disk.isFile path.location = true ∧ p'.disk = p.disk.erase path.location := by
  unfold delete at h
  split at h
  · next removed =>
    cases h
    exact Disk.removeFile?_some removed
  · cases h

theorem delete_report {p p' : Progress} {path : Path} (h : p.delete path = (p', none)) :
    p'.report = p.report.addDeleted [path] := by
  unfold delete at h
  split at h
  · cases h
    rfl
  · cases h

theorem delete_keeps (p : Progress) (path : Path) : p.disk.Keeps (p.delete path).1.disk := by
  unfold delete
  split
  · next removed =>
    obtain ⟨file, rfl⟩ := Disk.removeFile?_some removed
    exact Disk.erase_keeps (Disk.not_directory_of_isFile file)
  · exact .refl _

theorem write_ok {p p' : Progress} {path : Path} {contents : String}
    (h : p.write path contents = (p', none)) :
    (∀ loc, p'.disk.read? loc = if loc = path.location then some contents else p.disk.read? loc) ∧
      p'.disk.Walks path.parent.route.start path.parent.route.names := by
  unfold write at h
  split at h
  · cases h
  · next disk made =>
    split at h
    · cases h
    · next written wrote =>
      cases h
      have keeps := Disk.write?_keeps (Path.location_canonical path) wrote
      obtain ⟨-, rfl⟩ := Disk.write?_some wrote
      refine ⟨fun loc => ?_, (Disk.makeDirectories_walks made).mono keeps.directories⟩
      have before := Disk.makeDirectories_read? p.disk path.parent loc
      rw [made] at before
      dsimp only
      rw [Disk.read?_set_file, before]

theorem write_report {p p' : Progress} {path : Path} {contents : String}
    (h : p.write path contents = (p', none)) : p'.report = p.report.addWritten path := by
  unfold write at h
  split at h
  · cases h
  · split at h
    · cases h
    · cases h
      rfl

theorem write_keeps (p : Progress) (path : Path) (contents : String) :
    p.disk.Keeps (p.write path contents).1.disk := by
  have directories := Disk.makeDirectories_keeps p.disk path.parent
  unfold write
  split
  · next made =>
    rw [made] at directories
    exact directories
  · next made =>
    rw [made] at directories
    split
    · exact directories
    · next wrote =>
      exact directories.trans (Disk.write?_keeps (Path.location_canonical path) wrote)

end Progress

namespace Change

/-- A change that writes or deletes the file at a location, on this disk. -/
def Touches (d : Disk) (loc : Location) : Change → Prop
  | deleteStale file => file.path.location = loc
  | write base file => (base.join file.path).location = loc
  | cleanScripts directory => loc ∈ (ScriptResource.existing d directory).map Path.location

/-- A change that is not about the file at a location, whatever is on the disk. -/
def Spares (loc : Location) : Change → Prop
  | deleteStale file => file.path.location ≠ loc
  | write base file => (base.join file.path).location ≠ loc
  | cleanScripts _ => ScriptResource.extension? (loc.getLastD "") ≠ some "gdns"

theorem foldl_erase_existing (disk : Disk) (paths : List Path) :
    paths.foldl (fun disk path => disk.erase path.location) disk =
      (paths.map Path.location).foldl Disk.erase disk := by
  rw [List.foldl_map]

theorem mem_existing {disk : Disk} (wf : disk.WellFormed) {directory : Path} {loc : Location}
    (h : loc ∈ (ScriptResource.existing disk directory).map Path.location) :
    ScriptResource.extension? (loc.getLastD "") = some "gdns" ∧ disk.isFile loc = true := by
  obtain ⟨path, member, rfl⟩ := List.mem_map.1 h
  obtain ⟨rel, file, shown⟩ := List.mem_filterMap.1 member
  obtain ⟨place, some, there⟩ := wf.location_of_filesUnder file
  split at shown
  · next resource =>
    cases shown
    rw [place, Path.getLastD_append some]
    exact ⟨resource, there⟩
  · cases shown

theorem cleaned_sameTree {disk : Disk} (wf : disk.WellFormed) (directory : Path) :
    disk.SameTree (((ScriptResource.existing disk directory).map Path.location).foldl Disk.erase
      disk) :=
  Disk.foldl_erase_sameTree fun _ member => Disk.not_directory_of_isFile (mem_existing wf member).2

theorem apply_keeps {p : Progress} (wf : p.disk.WellFormed) (change : Change) :
    p.disk.Keeps (change.apply p).1.disk := by
  cases change with
  | deleteStale file => exact p.delete_keeps _
  | write base file => exact p.write_keeps _ _
  | cleanScripts directory =>
    rw [apply, foldl_erase_existing]
    exact (cleaned_sameTree wf directory).keeps fun wf => Disk.foldl_erase_wellFormed wf _

theorem apply_keeps_ok {p p' : Progress} {change : Change} (wf : p.disk.WellFormed)
    (h : change.apply p = (p', none)) : p.disk.Keeps p'.disk := by
  have keeps := apply_keeps wf change
  rwa [h] at keeps

theorem apply_untouched {p p' : Progress} {change : Change} {loc : Location}
    (untouched : ¬ change.Touches p.disk loc) (h : change.apply p = (p', none)) :
    p'.disk.read? loc = p.disk.read? loc := by
  cases change with
  | deleteStale file =>
    rw [(Progress.delete_ok h).2, Disk.read?_erase, if_neg (Ne.symm untouched)]
  | write base file => rw [(Progress.write_ok h).1, if_neg (Ne.symm untouched)]
  | cleanScripts directory =>
    rw [Touches] at untouched
    rw [apply, foldl_erase_existing] at h
    cases h
    rw [Disk.foldl_erase_read?, if_neg untouched]

theorem Spares.untouched {d : Disk} (wf : d.WellFormed) {change : Change} {loc : Location}
    (spares : change.Spares loc) : ¬ change.Touches d loc := by
  cases change with
  | deleteStale file => exact spares
  | write base file => exact spares
  | cleanScripts directory => exact fun member => spares (mem_existing wf member).1

/-! ### Runs -/

theorem run_cons_ok {p p' : Progress} {change : Change} {rest : List Change}
    (h : run p (change :: rest) = (p', none)) :
    ∃ next, change.apply p = (next, none) ∧ run next rest = (p', none) := by
  rw [run] at h
  split at h
  · next next applied => exact ⟨next, applied, h⟩
  · cases h

theorem run_append_ok {p p' : Progress} {changes more : List Change}
    (h : run p (changes ++ more) = (p', none)) :
    ∃ mid, run p changes = (mid, none) ∧ run mid more = (p', none) := by
  induction changes generalizing p with
  | nil => exact ⟨p, rfl, h⟩
  | cons change changes ih =>
    obtain ⟨next, applied, later⟩ := run_cons_ok h
    obtain ⟨mid, first, second⟩ := ih later
    refine ⟨mid, ?_, second⟩
    rw [run, applied]
    exact first

theorem run_append_of_ok {p mid : Progress} {changes more : List Change}
    (h : run p changes = (mid, none)) : run p (changes ++ more) = run mid more := by
  induction changes generalizing p with
  | nil =>
    cases h
    rfl
  | cons change changes ih =>
    obtain ⟨next, applied, later⟩ := run_cons_ok h
    rw [List.cons_append, run, applied]
    exact ih later

theorem run_invariant {p p' : Progress} {changes : List Change} {P : Progress → Prop}
    (wf : p.disk.WellFormed)
    (step : ∀ change ∈ changes, ∀ q q', q.disk.WellFormed → P q →
      change.apply q = (q', none) → P q')
    (start : P p) (h : run p changes = (p', none)) : P p' := by
  induction changes generalizing p with
  | nil =>
    cases h
    exact start
  | cons change rest ih =>
    obtain ⟨next, applied, later⟩ := run_cons_ok h
    exact ih ((apply_keeps_ok wf applied).wellFormed wf)
      (fun other member => step other (List.mem_cons_of_mem _ member))
      (step change List.mem_cons_self p next wf start applied) later

theorem run_keeps {p p' : Progress} {changes : List Change} (wf : p.disk.WellFormed)
    (h : run p changes = (p', none)) : p.disk.Keeps p'.disk :=
  run_invariant (P := fun q => p.disk.Keeps q.disk) wf
    (fun _ _ _ _ wf keeps applied => keeps.trans (apply_keeps_ok wf applied)) (.refl _) h

theorem run_spares {p p' : Progress} {changes : List Change} (wf : p.disk.WellFormed)
    {loc : Location} (spares : ∀ change ∈ changes, change.Spares loc)
    (h : run p changes = (p', none)) : p'.disk.read? loc = p.disk.read? loc :=
  run_invariant (P := fun q => q.disk.read? loc = p.disk.read? loc) wf
    (fun change member _ _ wf same applied =>
      (apply_untouched ((spares change member).untouched wf) applied).trans same) rfl h

theorem run_deletes {p p' : Progress} {files : List RegistrarFile}
    (h : run p (files.map deleteStale) = (p', none)) (loc : Location) :
    p'.disk.read? loc =
      if loc ∈ files.map (·.path.location) then none else p.disk.read? loc := by
  induction files generalizing p with
  | nil =>
    cases h
    simp
  | cons file files ih =>
    obtain ⟨next, applied, later⟩ := run_cons_ok h
    rw [ih later, (Progress.delete_ok applied).2, Disk.read?_erase]
    by_cases same : loc = file.path.location <;> simp [same]

theorem run_writes {p p' : Progress} {base : Path} {files : List Source.RenderedFile}
    (h : run p (files.map (write base)) = (p', none)) (loc : Location) :
    p'.disk.isFile loc = true ↔
      loc ∈ files.map (fun file => (base.join file.path).location) ∨ p.disk.isFile loc = true := by
  induction files generalizing p with
  | nil =>
    cases h
    simp
  | cons file files ih =>
    obtain ⟨next, applied, later⟩ := run_cons_ok h
    rw [ih later]
    unfold Disk.isFile
    rw [(Progress.write_ok applied).1]
    by_cases same : loc = (base.join file.path).location <;> simp [same]

/-! ### What is deleted -/

/-- The files that a change deletes, on this disk. -/
def deletions (d : Disk) : Change → List Path
  | deleteStale file => [file.path]
  | write _ _ => []
  | cleanScripts directory => ScriptResource.existing d directory

theorem apply_deleted {p p' : Progress} {change : Change} (h : change.apply p = (p', none)) :
    p'.report.deleted = p.report.deleted ++ change.deletions p.disk := by
  cases change with
  | deleteStale file => rw [Progress.delete_report h, Report.addDeleted, deletions]
  | write base file =>
    rw [Progress.write_report h, deletions, List.append_nil]
    rfl
  | cleanScripts directory =>
    cases h
    rfl

/-- A change that does not delete the file at a location, although it may write it. -/
def Retains (loc : Location) : Change → Prop
  | deleteStale file => file.path.location ≠ loc
  | write _ _ => True
  | cleanScripts _ => ScriptResource.extension? (loc.getLastD "") ≠ some "gdns"

theorem Retains.undeleted {d : Disk} (wf : d.WellFormed) {change : Change} {loc : Location}
    (retains : change.Retains loc) : loc ∉ (change.deletions d).map Path.location := by
  cases change with
  | deleteStale file => exact fun same => retains (List.mem_singleton.1 same).symm
  | write base file => exact List.not_mem_nil
  | cleanScripts directory => exact fun cleaned => retains (mem_existing wf cleaned).1

theorem apply_retains {p p' : Progress} (wf : p.disk.WellFormed) {change : Change} {loc : Location}
    (retains : change.Retains loc) (h : change.apply p = (p', none))
    (kept : loc ∉ p.report.deleted.map Path.location) :
    loc ∉ p'.report.deleted.map Path.location := by
  rw [apply_deleted h, List.map_append, List.mem_append, not_or]
  exact ⟨kept, retains.undeleted wf⟩

theorem run_retains {p p' : Progress} {changes : List Change} (wf : p.disk.WellFormed)
    {loc : Location} (retains : ∀ change ∈ changes, change.Retains loc)
    (h : run p changes = (p', none)) (kept : loc ∉ p.report.deleted.map Path.location) :
    loc ∉ p'.report.deleted.map Path.location :=
  run_invariant (P := fun q => loc ∉ q.report.deleted.map Path.location) wf
    (fun change member _ _ wf kept applied => apply_retains wf (retains change member) applied kept)
    kept h

end Change

/-! ### Cleaning up script resources -/

namespace ScriptResource

/-- A clean-up of the directory deletes the file at the location, if it finds it. -/
def Cleans (directory : Path) (loc : Location) : Prop :=
  directory.text ≠ "" ∧ ∃ rel, Disk.Below rel ∧ loc = directory.location ++ rel ∧
    extension? (loc.getLastD "") = some "gdns"

end ScriptResource

open ScriptResource (Cleans existing)

/-- Where the path to the script resources leads nowhere, none is at the location that it names. -/
def Disk.ScriptsVisible (d : Disk) (directory : Path) : Prop :=
  d.find? directory = none → ∀ loc, Cleans directory loc → d.isFile loc = false

namespace Disk

theorem Closed.scriptsVisible {d : Disk} (closed : d.Closed) (wf : d.WellFormed)
    {directory : Path} (noClimb : ".." ∉ directory.route.names) : d.ScriptsVisible directory := by
  rintro none loc ⟨text, rel, ⟨name, rest, rfl, -⟩, rfl, -⟩
  by_contra file
  obtain ⟨contents, there⟩ := node?_of_isFile (by simpa using file)
  have reaches := closed.reaches wf text noClimb (List.cons_ne_nil name rest) there
  rw [reaches.found] at none
  cases none

/-- Directories stay, so only a new resource can be one that cannot be found. -/
theorem ScriptsVisible.keeps {d d' : Disk} {directory : Path} (visible : d.ScriptsVisible directory)
    (keeps : d.Keeps d')
    (old : ∀ loc, Cleans directory loc → d'.isFile loc = true → d.isFile loc = true) :
    d'.ScriptsVisible directory := by
  intro none loc cleans
  have before : d.find? directory = .none := by
    cases found : d.find? directory with
    | none => rfl
    | some there =>
      rw [keeps.leads found] at none
      cases none
  by_contra file
  have there := old loc cleans (by simpa using file)
  rw [visible before loc cleans] at there
  cases there

variable {d : Disk} {directory : Path} {loc : Location}

theorem WellFormed.cleans_of_existing (wf : d.WellFormed)
    (h : loc ∈ (existing d directory).map Path.location) : Cleans directory loc := by
  have resource := (Change.mem_existing wf h).1
  obtain ⟨path, member, rfl⟩ := List.mem_map.1 h
  obtain ⟨rel, file, shown⟩ := List.mem_filterMap.1 member
  obtain ⟨place, -, -⟩ := wf.location_of_filesUnder file
  obtain ⟨below, -⟩ := wf.mem_filesBelow.1 (filesUnder_below file)
  have text : directory.text ≠ "" := by
    intro empty
    rw [filesUnder, find?, if_pos empty] at file
    cases file
  split at shown
  · cases shown
    exact ⟨text, rel, below, place, resource⟩
  · cases shown

theorem ScriptsVisible.mem_existing (visible : d.ScriptsVisible directory) (wf : d.WellFormed)
    (cleans : Cleans directory loc) (file : d.isFile loc = true) :
    loc ∈ (existing d directory).map Path.location := by
  cases found : d.find? directory with
  | none =>
    rw [visible found loc cleans] at file
    cases file
  | some there =>
    obtain ⟨-, rel, below, rfl, resource⟩ := cleans
    have under : rel ∈ d.filesUnder directory := by
      rw [filesUnder, found, find?_eq_location found]
      exact wf.mem_filesBelow.2 ⟨below, file⟩
    obtain ⟨place, some, -⟩ := wf.location_of_filesUnder under
    rw [Path.getLastD_append some] at resource
    exact List.mem_map.2 ⟨_, List.mem_filterMap.2 ⟨rel, under, if_pos resource⟩, place⟩

end Disk

end ScriptRegistrar
