import ScriptRegistrar.Proofs.Disk.Writable
import ScriptRegistrar.Proofs.Pass.Effects

/-! Changes that were made once can be made again, and that changes no file. -/

namespace ScriptRegistrar.Change

def Writes (loc : Location) : Change → Prop
  | write base file => (base.join file.path).location = loc
  | _ => False

/-- The change deletes the file at a location, if it finds it. -/
def Clears (loc : Location) : Change → Prop
  | deleteStale file => file.path.location = loc
  | write _ _ => False
  | cleanScripts directory => ScriptResource.Cleans directory loc

/-- No change deletes what one before it wrote. -/
def Ordered (changes : List Change) : Prop :=
  changes.Pairwise fun first later => ∀ loc, first.Writes loc → ¬ later.Clears loc

/-- Every clean-up finds the script resources that are there. -/
def Finds (d : Disk) (changes : List Change) : Prop :=
  ∀ directory, cleanScripts directory ∈ changes → d.ScriptsVisible directory

theorem ordered_of_uncleared {changes : List Change}
    (uncleared : ∀ change ∈ changes, ∀ loc, ¬ change.Clears loc) : Ordered changes :=
  List.pairwise_of_forall_mem_list fun _ _ later member loc _ => uncleared later member loc

/-! ### What becomes of a file -/

theorem apply_writes {change : Change} {loc : Location} (writes : change.Writes loc) :
    ∃ text, ∀ p p', change.apply p = (p', none) → p'.disk.read? loc = some text := by
  cases change with
  | deleteStale file => cases writes
  | write base file =>
    refine ⟨file.contents, fun p p' h => ?_⟩
    rw [(Progress.write_ok h).1, if_pos writes.symm]
  | cleanScripts directory => cases writes

variable {p p' : Progress} {change : Change} {changes : List Change} {loc : Location}

/-- Only a write makes a file appear. -/
theorem apply_unwritten (unwritten : ¬ change.Writes loc) (h : change.apply p = (p', none))
    (gone : p.disk.isFile loc = false) : p'.disk.isFile loc = false := by
  have missing : p.disk.read? loc = none := by simpa [Disk.isFile] using gone
  rw [Disk.isFile]
  cases change with
  | deleteStale file =>
    rw [(Progress.delete_ok h).2, Disk.read?_erase, missing, ite_self]
    rfl
  | write base file =>
    rw [(Progress.write_ok h).1, if_neg (Ne.symm unwritten), missing]
    rfl
  | cleanScripts directory =>
    rw [apply, foldl_erase_existing] at h
    cases h
    rw [Disk.foldl_erase_read?, missing, ite_self]
    rfl

theorem not_touches {d : Disk} (wf : d.WellFormed) (unwritten : ¬ change.Writes loc)
    (uncleared : ¬ change.Clears loc) : ¬ change.Touches d loc := by
  cases change with
  | deleteStale file => exact uncleared
  | write base file => exact unwritten
  | cleanScripts directory => exact fun member => uncleared (wf.cleans_of_existing member)

theorem apply_cleared (wf : p.disk.WellFormed) (finds : Finds p.disk [change])
    (clears : change.Clears loc) (h : change.apply p = (p', none)) :
    p'.disk.isFile loc = false := by
  cases change with
  | deleteStale file =>
    rw [Disk.isFile, (Progress.delete_ok h).2, Disk.read?_erase, if_pos clears.symm]
    rfl
  | write base file => cases clears
  | cleanScripts directory =>
    rw [apply, foldl_erase_existing] at h
    cases h
    rw [Disk.isFile, Disk.foldl_erase_read?]
    split
    · rfl
    · next missing =>
      have visible := finds directory List.mem_cons_self
      rw [← Disk.isFile, ← Bool.not_eq_true]
      exact fun file => missing (visible.mem_existing wf clears file)

theorem apply_isFile (wf : p.disk.WellFormed) (uncleared : ¬ change.Clears loc)
    (h : change.apply p = (p', none)) (file : p.disk.isFile loc = true) :
    p'.disk.isFile loc = true := by
  rw [Disk.isFile]
  by_cases writes : change.Writes loc
  · obtain ⟨text, wrote⟩ := apply_writes writes
    rw [wrote p p' h]
    rfl
  · rwa [apply_untouched (not_touches wf writes uncleared) h]

theorem Finds.apply (wf : p.disk.WellFormed) (finds : Finds p.disk changes)
    (apart : ∀ later ∈ changes, ∀ loc, change.Writes loc → ¬ later.Clears loc)
    (h : change.apply p = (p', none)) : Finds p'.disk changes := by
  intro directory member
  refine (finds directory member).keeps (apply_keeps_ok wf h) fun loc cleans file => ?_
  have unwritten : ¬ change.Writes loc := fun writes => apart _ member loc writes cleans
  by_contra gone
  rw [apply_unwritten unwritten h (by simpa using gone)] at file
  cases file

/-! ### Runs -/

theorem run_isFile (wf : p.disk.WellFormed) (uncleared : ∀ change ∈ changes, ¬ change.Clears loc)
    (h : run p changes = (p', none)) (file : p.disk.isFile loc = true) :
    p'.disk.isFile loc = true :=
  run_invariant (P := fun q => q.disk.isFile loc = true) wf
    (fun change member _ _ wf file applied =>
      apply_isFile wf (uncleared change member) applied file) file h

theorem run_uncleared (wf : p.disk.WellFormed) (unwritten : ∀ change ∈ changes, ¬ change.Writes loc)
    (uncleared : ∀ change ∈ changes, ¬ change.Clears loc) (h : run p changes = (p', none)) :
    p'.disk.read? loc = p.disk.read? loc :=
  run_invariant (P := fun q => q.disk.read? loc = p.disk.read? loc) wf
    (fun change member _ _ wf same applied =>
      (apply_untouched (not_touches wf (unwritten change member) (uncleared change member))
        applied).trans same) rfl h

theorem run_unwritten (wf : p.disk.WellFormed) (unwritten : ∀ change ∈ changes, ¬ change.Writes loc)
    (h : run p changes = (p', none)) (gone : p.disk.isFile loc = false) :
    p'.disk.isFile loc = false :=
  run_invariant (P := fun q => q.disk.isFile loc = false) wf
    (fun change member _ _ _ gone applied => apply_unwritten (unwritten change member) applied gone)
    gone h

/-- What is there in the end, and was not written, no change was to delete. -/
theorem uncleared_of_left (wf : p.disk.WellFormed) (ordered : Ordered changes)
    (finds : Finds p.disk changes) (unwritten : ∀ change ∈ changes, ¬ change.Writes loc)
    (h : run p changes = (p', none)) (left : p'.disk.isFile loc = true) :
    ∀ change ∈ changes, ¬ change.Clears loc := by
  induction changes generalizing p with
  | nil => exact fun _ member => nomatch member
  | cons change rest ih =>
    obtain ⟨next, applied, later⟩ := run_cons_ok h
    obtain ⟨apart, ordered⟩ := List.pairwise_cons.1 ordered
    have wf₁ := (apply_keeps_ok wf applied).wellFormed wf
    have unwritten' : ∀ other ∈ rest, ¬ other.Writes loc := fun other member =>
      unwritten other (List.mem_cons_of_mem _ member)
    have finds' : Finds p.disk rest := fun directory member =>
      finds directory (List.mem_cons_of_mem _ member)
    intro other member
    rcases List.mem_cons.1 member with rfl | member
    · intro clears
      have finds₁ : Finds p.disk [other] := fun directory member =>
        finds directory (List.mem_singleton.1 member ▸ List.mem_cons_self)
      -- Without a write the file would not have come back.
      have gone := apply_cleared wf finds₁ clears applied
      rw [run_unwritten wf₁ unwritten' later gone] at left
      cases left
    · exact ih wf₁ ordered (finds'.apply wf apart applied) unwritten' later other member

/-- What is written ends with the contents of the last write, whatever the disk was before. -/
theorem run_written {q q' : Progress} (wf : p.disk.WellFormed) (wf' : q.disk.WellFormed)
    (ordered : Ordered changes) (written : ∃ change ∈ changes, change.Writes loc)
    (h : run p changes = (p', none)) (h' : run q changes = (q', none)) :
    p'.disk.read? loc = q'.disk.read? loc := by
  induction changes generalizing p q with
  | nil =>
    obtain ⟨change, member, -⟩ := written
    cases member
  | cons change rest ih =>
    obtain ⟨next, applied, later⟩ := run_cons_ok h
    obtain ⟨next', applied', later'⟩ := run_cons_ok h'
    obtain ⟨apart, ordered⟩ := List.pairwise_cons.1 ordered
    have wf₁ := (apply_keeps_ok wf applied).wellFormed wf
    have wf₁' := (apply_keeps_ok wf' applied').wellFormed wf'
    -- Either the last write is still to come, or nothing touches the file any more.
    by_cases again : ∃ other ∈ rest, other.Writes loc
    · exact ih wf₁ wf₁' ordered again later later'
    · have unwritten : ∀ other ∈ rest, ¬ other.Writes loc := fun other member writes =>
        again ⟨other, member, writes⟩
      obtain ⟨last, member, writes⟩ := written
      rcases List.mem_cons.1 member with rfl | member
      · have uncleared : ∀ other ∈ rest, ¬ other.Clears loc := fun other member =>
          apart other member loc writes
        obtain ⟨text, wrote⟩ := apply_writes writes
        rw [run_uncleared wf₁ unwritten uncleared later,
          run_uncleared wf₁' unwritten uncleared later', wrote _ _ applied, wrote _ _ applied']
      · exact absurd writes (unwritten last member)

/-! ### Success -/

/-- The change can be made on every disk with these directories. -/
inductive Ready (d : Disk) : Change → Prop
  | write {base file} (writable : d.Writable (base.join file.path)) : Ready d (.write base file)
  | cleanScripts (directory) : Ready d (.cleanScripts directory)

theorem Ready.sameTree {d d' : Disk} (ready : change.Ready d) (same : d.SameTree d') :
    change.Ready d' := by
  cases ready with
  | write writable => exact .write (same.writable writable)
  | cleanScripts directory => exact .cleanScripts directory

theorem Ready.apply (ready : change.Ready p.disk) (wf : p.disk.WellFormed) :
    ∃ p', change.apply p = (p', none) ∧ p.disk.SameTree p'.disk := by
  cases ready with
  | write writable => exact Progress.write_of_writable writable _
  | cleanScripts directory =>
    refine ⟨_, rfl, ?_⟩
    rw [foldl_erase_existing]
    exact cleaned_sameTree wf directory

theorem run_ready (ready : ∀ change ∈ changes, change.Ready p.disk) (wf : p.disk.WellFormed) :
    ∃ p', run p changes = (p', none) ∧ p.disk.SameTree p'.disk := by
  induction changes generalizing p with
  | nil => exact ⟨p, rfl, .refl _⟩
  | cons change rest ih =>
    obtain ⟨next, applied, same⟩ := (ready change List.mem_cons_self).apply wf
    obtain ⟨p', ran, same'⟩ := ih (fun other member =>
      (ready other (List.mem_cons_of_mem _ member)).sameTree same)
      ((apply_keeps_ok wf applied).wellFormed wf)
    refine ⟨p', ?_, same.trans same'⟩
    rw [run, applied]
    exact ran

theorem run_deletes_ready {files : List RegistrarFile} (wf : p.disk.WellFormed)
    (distinct : (files.map (·.path.location)).Nodup)
    (there : ∀ file ∈ files, p.disk.isFile file.path.location = true) :
    ∃ p', run p (files.map deleteStale) = (p', none) ∧ p.disk.SameTree p'.disk := by
  induction files generalizing p with
  | nil => exact ⟨p, rfl, .refl _⟩
  | cons file files ih =>
    obtain ⟨fresh, distinct⟩ := List.nodup_cons.1 distinct
    have first := there file List.mem_cons_self
    have applied : (deleteStale file).apply p =
        (⟨p.disk.erase file.path.location, p.report.addDeleted [file.path]⟩, none) := by
      rw [Change.apply, Progress.delete, Disk.removeFile?, if_pos first]
    have others : ∀ other ∈ files,
        (p.disk.erase file.path.location).isFile other.path.location = true := by
      intro other member
      have apart : other.path.location ≠ file.path.location := fun same =>
        fresh (List.mem_map.2 ⟨other, member, same⟩)
      rw [Disk.isFile, Disk.read?_erase, if_neg apart]
      exact there other (List.mem_cons_of_mem _ member)
    obtain ⟨p', ran, same⟩ := ih (p := ⟨_, p.report.addDeleted [file.path]⟩) (wf.erase _) distinct
      others
    refine ⟨p', ?_, (Disk.erase_sameTree (Disk.not_directory_of_isFile first)).trans same⟩
    rw [List.map_cons, run, applied]
    exact ran

theorem ready_of_run (wf : p.disk.WellFormed) (ordered : Ordered changes)
    (staying : ∀ file, deleteStale file ∉ changes) (h : run p changes = (p', none)) :
    ∀ change ∈ changes, change.Ready p'.disk := by
  induction changes generalizing p with
  | nil => exact fun _ member => nomatch member
  | cons change rest ih =>
    obtain ⟨next, applied, later⟩ := run_cons_ok h
    obtain ⟨apart, ordered⟩ := List.pairwise_cons.1 ordered
    have wf₁ := (apply_keeps_ok wf applied).wellFormed wf
    intro other member
    rcases List.mem_cons.1 member with rfl | member
    · cases other with
      | deleteStale file => exact absurd member (staying file)
      | cleanScripts directory => exact .cleanScripts directory
      | write base file =>
        have file₁ : next.disk.isFile (base.join file.path).location = true := by
          rw [Disk.isFile, (Progress.write_ok applied).1, if_pos rfl]
          rfl
        refine .write ((run_keeps wf₁ later).writable (Progress.write_writable applied) ?_)
        exact run_isFile wf₁ (fun other member => apart other member _ rfl) later file₁
    · exact ih wf₁ ordered (fun file member => staying file (List.mem_cons_of_mem _ member))
        later other member

/-! ### A second run -/

section
variable {stale : List RegistrarFile} {rest : List Change}

theorem unwritten_by_deletes (unwritten : ∀ change ∈ rest, ¬ change.Writes loc) :
    ∀ change ∈ stale.map deleteStale ++ rest, ¬ change.Writes loc := by
  intro change member
  rcases List.mem_append.1 member with delete | member
  · obtain ⟨file, -, rfl⟩ := List.mem_map.1 delete
    exact id
  · exact unwritten change member

theorem Ordered.deletes_append (ordered : Ordered rest) :
    Ordered (stale.map deleteStale ++ rest) := by
  refine List.pairwise_append.2 ⟨?_, ordered, ?_⟩
  · exact List.pairwise_map.2 (List.pairwise_of_forall fun _ _ _ writes => nomatch writes)
  · intro change member _ _ loc writes
    obtain ⟨file, -, rfl⟩ := List.mem_map.1 member
    cases writes

theorem Finds.deletes_append {d : Disk} (finds : Finds d rest) :
    Finds d (stale.map deleteStale ++ rest) := by
  intro directory member
  rcases List.mem_append.1 member with delete | member
  · obtain ⟨file, -, other⟩ := List.mem_map.1 delete
    cases other
  · exact finds directory member

/-- The files that are deleted before the second run are among those that it writes. Then it
succeeds, and changes nothing. -/
theorem run_again {start : Progress} {stale' : List RegistrarFile} (wf : p.disk.WellFormed)
    (ordered : Ordered rest) (staying : ∀ file, deleteStale file ∉ rest)
    (finds : Finds p.disk rest) (h : run p (stale.map deleteStale ++ rest) = (p', none))
    (continued : start.disk = p'.disk) (distinct : (stale'.map (·.path.location)).Nodup)
    (there : ∀ file ∈ stale', p'.disk.isFile file.path.location = true)
    (rewritten : ∀ file ∈ stale', ∃ change ∈ rest, change.Writes file.path.location) :
    ∃ p'', run start (stale'.map deleteStale ++ rest) = (p'', none) ∧
      (∀ loc, p''.disk.read? loc = p'.disk.read? loc) ∧ p'.disk.SameTree p''.disk := by
  obtain ⟨mid, deleting, ran⟩ := run_append_ok h
  have wf₁ := (run_keeps wf deleting).wellFormed wf
  have wf' := (run_keeps wf h).wellFormed wf
  rw [← continued] at wf' there
  obtain ⟨mid', deleting', tree⟩ := run_deletes_ready wf' distinct there
  have wf₁' := (run_keeps wf' deleting').wellFormed wf'
  have ready : ∀ change ∈ rest, change.Ready mid'.disk := fun change member =>
    (ready_of_run wf₁ ordered staying ran change member).sameTree (continued ▸ tree)
  obtain ⟨p'', ran', tree'⟩ := run_ready ready wf₁'
  have again : run start (stale'.map deleteStale ++ rest) = (p'', none) := by
    rw [run_append_of_ok deleting', ran']
  refine ⟨p'', again, fun loc => ?_, continued ▸ tree.trans tree'⟩
  by_cases written : ∃ change ∈ rest, change.Writes loc
  · exact run_written wf₁' wf₁ ordered written ran' ran
  have unwritten : ∀ change ∈ rest, ¬ change.Writes loc := fun change member writes =>
    written ⟨change, member, writes⟩
  -- What nothing writes was kept by the first run or was gone after it.
  cases left : p'.disk.isFile loc with
  | true =>
    have uncleared := uncleared_of_left wf ordered.deletes_append finds.deletes_append
      (unwritten_by_deletes unwritten) h left
    rw [← continued]
    refine run_uncleared wf' (unwritten_by_deletes unwritten) (fun change member clears => ?_) again
    rcases List.mem_append.1 member with delete | member
    · obtain ⟨file, gone, rfl⟩ := List.mem_map.1 delete
      have place : file.path.location = loc := clears
      exact written (place ▸ rewritten file gone)
    · exact uncleared change (List.mem_append_right _ member) clears
  | false =>
    have gone := run_unwritten wf' (unwritten_by_deletes unwritten) again (continued ▸ left)
    simp only [Disk.isFile, Option.isSome_eq_false_iff, Option.isNone_iff_eq_none] at gone left
    rw [gone, left]

end

/-! ### What is reported -/

def written? : Change → Option Path
  | write base file => some (base.join file.path)
  | _ => none

theorem apply_report (h : change.apply p = (p', none)) :
    p'.report.classes = p.report.classes ∧ p'.report.surviving = p.report.surviving ∧
      p'.report.written = p.report.written ++ change.written?.toList := by
  cases change with
  | deleteStale file =>
    rw [Progress.delete_report h]
    exact ⟨rfl, rfl, (List.append_nil _).symm⟩
  | write base file =>
    rw [Progress.write_report h]
    exact ⟨rfl, rfl, rfl⟩
  | cleanScripts directory =>
    cases h
    exact ⟨rfl, rfl, (List.append_nil _).symm⟩

theorem run_report (h : run p changes = (p', none)) :
    p'.report.classes = p.report.classes ∧ p'.report.surviving = p.report.surviving ∧
      p'.report.written = p.report.written ++ changes.filterMap written? := by
  induction changes generalizing p with
  | nil =>
    cases h
    exact ⟨rfl, rfl, (List.append_nil _).symm⟩
  | cons change rest ih =>
    obtain ⟨next, applied, later⟩ := run_cons_ok h
    obtain ⟨classes, surviving, written⟩ := apply_report applied
    obtain ⟨classes', surviving', written'⟩ := ih later
    refine ⟨classes'.trans classes, surviving'.trans surviving, ?_⟩
    rw [written', written, List.append_assoc, List.filterMap_cons]
    cases change.written? <;> rfl

theorem written?_deletes (stale : List RegistrarFile) (rest : List Change) :
    (stale.map deleteStale ++ rest).filterMap written? = rest.filterMap written? := by
  induction stale with
  | nil => rfl
  | cons file stale ih => exact ih

end ScriptRegistrar.Change
