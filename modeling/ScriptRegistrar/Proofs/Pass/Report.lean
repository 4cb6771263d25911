import ScriptRegistrar.Proofs.Pass.Rerun

namespace ScriptRegistrar

namespace Change

def Apart (changes : List Change) : Prop :=
  changes.Pairwise fun first later => ∀ loc, first.Writes loc → ¬ later.Writes loc

variable {p p' : Progress} {change : Change} {changes : List Change} {loc : Location} {path : Path}

theorem writes_iff : change.Writes loc ↔ loc ∈ change.written?.toList.map Path.location := by
  cases change with
  | deleteStale file => simp [Writes, written?]
  | write base file => simp [Writes, written?, eq_comm]
  | cleanScripts directory => simp [Writes, written?]

theorem touches_iff {d : Disk} : change.Touches d loc ↔
    loc ∈ (change.deletions d).map Path.location ∨ change.Writes loc := by
  cases change with
  | deleteStale file => simp [Touches, Writes, deletions, eq_comm]
  | write base file => simp [Touches, Writes, deletions]
  | cleanScripts directory => simp only [Touches, Writes, deletions, or_false]

theorem apply_deletes (deleted : loc ∈ (change.deletions p.disk).map Path.location)
    (h : change.apply p = (p', none)) : p'.disk.isFile loc = false := by
  have erased : p'.disk.read? loc = none := by
    cases change with
    | deleteStale file =>
      rw [deletions, List.map_singleton, List.mem_singleton] at deleted
      rw [(Progress.delete_ok h).2, Disk.read?_erase, if_pos deleted]
    | write base file => cases deleted
    | cleanScripts directory =>
      rw [deletions] at deleted
      rw [apply, foldl_erase_existing] at h
      cases h
      rw [Disk.foldl_erase_read?, if_pos deleted]
  rw [Disk.isFile, erased]
  rfl

end Change

/-! ### The report and the disk -/

/-- A report accounts for what became of the files of a disk. -/
structure Progress.Accounts (before : Disk) (p : Progress) : Prop where
  unchanged : ∀ loc, loc ∉ p.report.deleted.map Path.location →
    loc ∉ p.report.written.map Path.location → p.disk.read? loc = before.read? loc
  gone : ∀ loc ∈ p.report.deleted.map Path.location,
    loc ∉ p.report.written.map Path.location → p.disk.isFile loc = false

namespace Change

variable {p p' : Progress} {change : Change} {changes : List Change} {loc : Location} {path : Path}
  {before : Disk}

theorem apply_accounts (accounts : p.Accounts before) (h : change.apply p = (p', none)) :
    p'.Accounts before := by
  have deleted := apply_deleted h
  obtain ⟨-, -, written⟩ := apply_report h
  constructor
  case unchanged =>
    intro loc undeleted unwritten
    rw [deleted, List.map_append, List.mem_append, not_or] at undeleted
    rw [written, List.map_append, List.mem_append, not_or, ← writes_iff] at unwritten
    have untouched : ¬ change.Touches p.disk loc := by
      rw [touches_iff, not_or]
      exact ⟨undeleted.2, unwritten.2⟩
    rw [apply_untouched untouched h]
    exact accounts.unchanged loc undeleted.1 unwritten.1
  case gone =>
    intro loc member unwritten
    rw [written, List.map_append, List.mem_append, not_or, ← writes_iff] at unwritten
    rw [deleted, List.map_append, List.mem_append] at member
    rcases member with earlier | now
    · exact apply_unwritten unwritten.2 h (accounts.gone loc earlier unwritten.1)
    · exact apply_deletes now h

theorem run_accounts (wf : p.disk.WellFormed) (accounts : p.Accounts before)
    (h : run p changes = (p', none)) : p'.Accounts before :=
  run_invariant (P := Progress.Accounts before) wf
    (fun _ _ _ _ _ accounts applied => apply_accounts accounts applied) accounts h

/-! ### Deleted files -/

/-- What a run deletes is the file of a deletion, or was found by a clean-up. -/
theorem run_deleted_cases (wf : p.disk.WellFormed) (h : run p changes = (p', none))
    (member : path ∈ p'.report.deleted) :
    path ∈ p.report.deleted ∨ (∃ file, deleteStale file ∈ changes ∧ file.path = path) ∨
      ∃ directory, cleanScripts directory ∈ changes ∧
        ∃ d : Disk, d.WellFormed ∧ path ∈ ScriptResource.existing d directory := by
  refine run_invariant (P := fun q => ∀ path ∈ q.report.deleted, path ∈ p.report.deleted ∨
    (∃ file, deleteStale file ∈ changes ∧ file.path = path) ∨
      ∃ directory, cleanScripts directory ∈ changes ∧
        ∃ d : Disk, d.WellFormed ∧ path ∈ ScriptResource.existing d directory) wf ?_
    (fun _ => .inl) h path member
  intro change listed q q' wf earlier applied path member
  rw [apply_deleted applied] at member
  rcases List.mem_append.1 member with old | new
  · exact earlier path old
  · cases change with
    | deleteStale file => exact .inr (.inl ⟨file, listed, (List.mem_singleton.1 new).symm⟩)
    | write base file => cases new
    | cleanScripts directory => exact .inr (.inr ⟨directory, listed, q.disk, wf, new⟩)

theorem run_deleted_of_mem (wf : p.disk.WellFormed) (h : run p changes = (p', none))
    (member : path ∈ p.report.deleted) : path ∈ p'.report.deleted := by
  refine run_invariant (P := fun q => path ∈ q.report.deleted) wf ?_ member h
  intro change listed q q' wf member applied
  rw [apply_deleted applied]
  exact List.mem_append_left _ member

theorem run_deleteStale {file : RegistrarFile} (wf : p.disk.WellFormed)
    (h : run p changes = (p', none)) (member : deleteStale file ∈ changes) :
    file.path ∈ p'.report.deleted := by
  obtain ⟨earlier, later, rfl⟩ := List.append_of_mem member
  obtain ⟨mid, first, h⟩ := run_append_ok h
  obtain ⟨next, applied, h⟩ := run_cons_ok h
  have wf₁ := (run_keeps wf first).wellFormed wf
  refine run_deleted_of_mem ((apply_keeps_ok wf₁ applied).wellFormed wf₁) h ?_
  rw [apply_deleted applied]
  exact List.mem_append_right _ (List.mem_singleton.2 rfl)

/-! ### Written files -/

theorem mem_written :
    path ∈ changes.filterMap written? ↔
      ∃ base file, write base file ∈ changes ∧ base.join file.path = path := by
  rw [List.mem_filterMap]
  constructor
  · rintro ⟨change, member, shown⟩
    cases change with
    | deleteStale file => cases shown
    | write base file => exact ⟨base, file, member, Option.some.inj shown⟩
    | cleanScripts directory => cases shown
  · rintro ⟨base, file, member, rfl⟩
    exact ⟨_, member, rfl⟩

theorem Apart.nodup (apart : Apart changes) :
    ((changes.filterMap written?).map Path.location).Nodup := by
  rw [List.Nodup, List.pairwise_map, List.pairwise_filterMap]
  refine apart.imp fun apart path written path' written' same => ?_
  refine apart path.location (writes_iff.2 ?_) (writes_iff.2 ?_)
  · simp [written]
  · simp [written', same]

theorem Apart.deletes_append {stale : List RegistrarFile} (apart : Apart changes) :
    Apart (stale.map deleteStale ++ changes) := by
  refine List.pairwise_append.2 ⟨?_, apart, ?_⟩
  · exact List.pairwise_map.2 (List.pairwise_of_forall fun _ _ _ writes => nomatch writes)
  · intro first member later _ loc writes
    obtain ⟨file, -, rfl⟩ := List.mem_map.1 member
    cases writes

/-- Each write leaves its contents, if nothing that comes later is about the same file. -/
theorem run_contents {base : Path} {file : Source.RenderedFile} (wf : p.disk.WellFormed)
    (ordered : Ordered changes) (apart : Apart changes) (h : run p changes = (p', none))
    (member : write base file ∈ changes) :
    p'.disk.readAt? (base.join file.path) = some file.contents := by
  obtain ⟨earlier, later, rfl⟩ := List.append_of_mem member
  obtain ⟨mid, first, h⟩ := run_append_ok h
  obtain ⟨next, applied, h⟩ := run_cons_ok h
  have wf₁ := (run_keeps wf first).wellFormed wf
  have wf₂ := (apply_keeps_ok wf₁ applied).wellFormed wf₁
  have unwritten : ∀ change ∈ later, ¬ change.Writes (base.join file.path).location :=
    fun change member => (List.pairwise_cons.1 (List.pairwise_append.1 apart).2.1).1 change member _
      rfl
  have uncleared : ∀ change ∈ later, ¬ change.Clears (base.join file.path).location :=
    fun change member => (List.pairwise_cons.1 (List.pairwise_append.1 ordered).2.1).1 change
      member _ rfl
  have found := (run_keeps wf₂ h).leads (Progress.write_writable applied).find?
  rw [Disk.readAt?, found, Option.bind_some, run_uncleared wf₂ unwritten uncleared h,
    (Progress.write_ok applied).1, if_pos rfl]

end Change

end ScriptRegistrar
