import ScriptRegistrar.Pass.Basic
import ScriptRegistrar.Proofs.Disk.Walk

namespace ScriptRegistrar

namespace Disk

theorem makeAlong_of_walks {d : Disk} {loc : Location} {names : List String}
    (h : d.Walks loc names) : d.makeAlong loc names = (d, true) := by
  induction names generalizing loc with
  | nil => rfl
  | cons name names ih =>
    obtain ⟨-, later⟩ := walks_cons.1 h
    have there : d.isDirectory (Path.enter loc name) = true := by
      cases names with
      | nil => exact walks_nil.1 later
      | cons next names => exact (walks_cons.1 later).1
    rw [makeAlong, makeDirectory?, if_pos there]
    exact ih later

/-- There is a way to the directory of a file, and no directory in the place of the file. -/
structure Writable (d : Disk) (path : Path) : Prop where
  walks : d.Walks path.parent.route.start path.parent.route.names
  free : d.isDirectory path.location = false
  above : d.isDirectory path.location.dropLast = true

theorem SameTree.writable {d d' : Disk} (same : d.SameTree d') {path : Path}
    (h : d.Writable path) : d'.Writable path where
  walks := h.walks.mono same.directories
  free := (same _).trans h.free
  above := (same _).trans h.above

/-- A file can be written again while it is there. -/
theorem Keeps.writable {d d' : Disk} (keeps : d.Keeps d') {path : Path} (h : d.Writable path)
    (file : d'.isFile path.location = true) : d'.Writable path where
  walks := h.walks.mono keeps.directories
  free := by
    have notFixed : Path.isFixed path.location = false := by
      by_contra fixed
      have free := h.free
      rw [isDirectory_iff.2 (.inl (by simpa using fixed))] at free
      cases free
    rw [← Bool.not_eq_true, isDirectory_iff]
    rintro (fixed | there)
    · rw [notFixed] at fixed
      cases fixed
    · exact not_directory_of_isFile file there
  above := keeps.directories _ h.above

theorem Writable.find? {d : Disk} {path : Path} (h : d.Writable path) :
    d.find? path = some path.location := by
  have text : path.text ≠ "" := by
    intro none
    have free := h.free
    rw [Path.location_of_text_eq_empty none] at free
    cases free
  have pieced : path.pieces ≠ [] := by
    intro none
    rw [Path.text, none] at text
    exact text rfl
  obtain ⟨start, names, name, route, above⟩ := Path.route_parent_eq pieced
  have walks := h.walks
  rw [above] at walks
  have way := (walks_append.1 walks).1
  rw [Disk.find?, if_neg text, Path.location, route, List.foldlM_append, way.1, List.foldl_append]
  simp [step?, way.2]

end Disk

namespace Progress

theorem write_writable {p p' : Progress} {path : Path} {contents : String}
    (h : p.write path contents = (p', none)) : p'.disk.Writable path := by
  unfold write at h
  split at h
  · cases h
  · next disk made =>
    split at h
    · cases h
    · next written wrote =>
      cases h
      have keeps := Disk.write?_keeps (Path.location_canonical path) wrote
      obtain ⟨free, rfl⟩ := Disk.write?_some wrote
      have same := Disk.set_file_sameTree free contents
      refine same.writable ⟨Disk.makeDirectories_walks made, free, ?_⟩
      by_contra missing
      simp [Disk.write?, missing] at wrote

theorem write_of_writable {p : Progress} {path : Path} (h : p.disk.Writable path)
    (contents : String) :
    ∃ p', p.write path contents = (p', none) ∧ p.disk.SameTree p'.disk := by
  have made : p.disk.makeDirectories path.parent = (p.disk, true) :=
    Disk.makeAlong_of_walks h.walks
  have wrote : p.disk.write? path.location contents =
      some (p.disk.set path.location (.file contents)) := by
    rw [Disk.write?, if_neg (by simp [h.free, h.above])]
  refine ⟨⟨p.disk.set path.location (.file contents), p.report.addWritten path⟩, ?_,
    Disk.set_file_sameTree h.free contents⟩
  rw [write, made]
  dsimp only
  rw [wrote]

end Progress

end ScriptRegistrar
