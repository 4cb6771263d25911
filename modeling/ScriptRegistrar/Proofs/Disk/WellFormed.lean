import Mathlib.Data.List.Nodup
import ScriptRegistrar.Proofs.Disk.Location

namespace ScriptRegistrar.Disk

structure WellFormed (d : Disk) : Prop where
  distinct : (d.nodes.map Prod.fst).Nodup
  canonical : ∀ entry ∈ d.nodes, Path.Canonical entry.1

theorem WellFormed.of_properNames {d : Disk} (distinct : (d.nodes.map Prod.fst).Nodup)
    (proper : ∀ entry ∈ d.nodes, ∀ name ∈ entry.1, Path.ProperName name) : d.WellFormed :=
  ⟨distinct, fun entry member => .of_properNames (proper entry member)⟩

theorem WellFormed.erase {d : Disk} (wf : d.WellFormed) (loc : Location) :
    (d.erase loc).WellFormed where
  distinct := (List.filter_sublist.map Prod.fst).nodup wf.distinct
  canonical _ member := wf.canonical _ (List.mem_of_mem_filter member)

theorem WellFormed.set {d : Disk} (wf : d.WellFormed) {loc : Location}
    (canonical : Path.Canonical loc) (node : Node) : (d.set loc node).WellFormed where
  distinct := by
    refine List.nodup_cons.2 ⟨fun member => ?_, (wf.erase loc).distinct⟩
    obtain ⟨entry, kept, same⟩ := List.mem_map.1 member
    exact of_decide_eq_true (List.mem_filter.1 kept).2 same
  canonical entry member := by
    rcases List.mem_cons.1 member with rfl | old
    · exact canonical
    · exact (wf.erase loc).canonical entry old

theorem mem_nodes_iff {nodes : List (Location × Node)} (distinct : (nodes.map Prod.fst).Nodup)
    {loc : Location} {node : Node} : (loc, node) ∈ nodes ↔ nodes.lookup loc = some node := by
  induction nodes with
  | nil => simp
  | cons entry nodes ih =>
    obtain ⟨fresh, rest⟩ := List.nodup_cons.1 distinct
    rw [List.lookup_cons, List.mem_cons, ih rest]
    by_cases same : loc = entry.1
    · subst same
      have missing : nodes.lookup entry.1 ≠ some node := fun found =>
        fresh (List.mem_map.2 ⟨_, (ih rest).2 found, rfl⟩)
      simp [missing, Prod.ext_iff, eq_comm]
    · simp [same, Prod.ext_iff, beq_false_of_ne same]

theorem WellFormed.mem_nodes {d : Disk} (wf : d.WellFormed) {loc : Location} {node : Node} :
    (loc, node) ∈ d.nodes ↔ d.node? loc = some node :=
  mem_nodes_iff wf.distinct

theorem WellFormed.mem_files {d : Disk} (wf : d.WellFormed) {loc : Location} {text : String} :
    (loc, text) ∈ d.files ↔ d.read? loc = some text := by
  have read : d.read? loc = some text ↔ d.node? loc = some (.file text) := by
    unfold read?
    cases d.node? loc with
    | none => simp
    | some node => cases node <;> simp
  rw [files, mem_sortOn, read, ← wf.mem_nodes, List.mem_filterMap]
  constructor
  · rintro ⟨⟨other, node⟩, member, shown⟩
    cases node with
    | file contents =>
      cases shown
      exact member
    | directory => cases shown
  · intro member
    exact ⟨_, member, rfl⟩

theorem WellFormed.isFile_iff {d : Disk} (wf : d.WellFormed) {loc : Location} :
    d.isFile loc = true ↔ ∃ text, (loc, text) ∈ d.files := by
  simp only [isFile, Option.isSome_iff_exists, wf.mem_files]

/-- A location names a file below a directory, without leading up first. -/
def Below (rel : Location) : Prop := ∃ name rest, rel = name :: rest ∧ Path.isFixed [name] = false

theorem WellFormed.mem_filesBelow {d : Disk} (wf : d.WellFormed) {directory rel : Location} :
    rel ∈ d.filesBelow directory ↔ Below rel ∧ d.isFile (directory ++ rel) = true := by
  rw [filesBelow, List.mem_filterMap, wf.isFile_iff]
  constructor
  · rintro ⟨⟨loc, text⟩, member, shown⟩
    dsimp only at shown
    split at shown
    · next name rest stripped =>
      rw [Text.stripPrefix?_eq_some_iff] at stripped
      split at shown
      · cases shown
      · next free =>
        cases shown
        rw [stripped] at member
        exact ⟨⟨name, rest, rfl, by simpa using free⟩, text, member⟩
    · cases shown
  · rintro ⟨⟨name, rest, rfl, free⟩, text, member⟩
    refine ⟨_, member, ?_⟩
    dsimp only
    rw [Text.stripPrefix?_eq_some_iff.2 rfl]
    simp [free]

theorem filterMap_files_sublist (nodes : List (Location × Node)) :
    ((nodes.filterMap fun
      | (loc, .file text) => some (loc, text)
      | (_, .directory) => none).map Prod.fst).Sublist (nodes.map Prod.fst) := by
  induction nodes with
  | nil => exact .slnil
  | cons entry nodes ih =>
    obtain ⟨loc, node⟩ := entry
    cases node with
    | file text => exact ih.cons_cons loc
    | directory => exact ih.cons loc

theorem filterMap_below_sublist (directory : Location) (files : List (Location × String)) :
    ((files.filterMap fun (loc, _) =>
      match Text.stripPrefix? directory loc with
      | some (name :: rest) => if Path.isFixed [name] then none else some (name :: rest)
      | _ => none).map (directory ++ ·)).Sublist (files.map Prod.fst) := by
  induction files with
  | nil => exact .slnil
  | cons entry files ih =>
    obtain ⟨loc, text⟩ := entry
    cases stripped : Text.stripPrefix? directory loc with
    | none => simpa only [List.filterMap_cons, List.map_cons, stripped] using ih.cons loc
    | some rel =>
      cases rel with
      | nil => simpa only [List.filterMap_cons, List.map_cons, stripped] using ih.cons loc
      | cons name rest =>
        have place := Text.stripPrefix?_eq_some_iff.1 stripped
        cases fixed : Path.isFixed [name] with
        | true => simpa [stripped, fixed] using ih.cons loc
        | false => simpa [stripped, fixed, ← place] using ih.cons_cons loc

theorem WellFormed.filesBelow_nodup {d : Disk} (wf : d.WellFormed) (directory : Location) :
    (d.filesBelow directory).Nodup := by
  have located : (d.files.map Prod.fst).Nodup :=
    ((sortOn_perm _ _).map Prod.fst).nodup_iff.2 ((filterMap_files_sublist _).nodup wf.distinct)
  exact .of_map (directory ++ ·) ((filterMap_below_sublist directory d.files).nodup located)

theorem node?_of_isFile {d : Disk} {loc : Location} (h : d.isFile loc = true) :
    ∃ text, d.node? loc = some (.file text) := by
  unfold isFile read? at h
  split at h
  · next text found => exact ⟨text, found⟩
  · cases h

theorem WellFormed.properName_of_file {d : Disk} (wf : d.WellFormed) {directory rel : Location}
    (below : Below rel) (file : d.isFile (directory ++ rel) = true) :
    ∀ name ∈ rel, Path.ProperName name := by
  obtain ⟨name, rest, rfl, free⟩ := below
  obtain ⟨text, found⟩ := node?_of_isFile file
  exact (wf.canonical _ (wf.mem_nodes.2 found)).below free

/-- What no change but the removal of a directory takes away. -/
structure Keeps (d d' : Disk) : Prop where
  wellFormed : d.WellFormed → d'.WellFormed
  directories : ∀ loc, d.isDirectory loc = true → d'.isDirectory loc = true

theorem Keeps.refl (d : Disk) : d.Keeps d := ⟨id, fun _ => id⟩

theorem Keeps.trans {a b c : Disk} (h : a.Keeps b) (h' : b.Keeps c) : a.Keeps c :=
  ⟨h'.wellFormed ∘ h.wellFormed, fun loc there => h'.directories loc (h.directories loc there)⟩

/-- The same directories, whatever the files are. -/
def SameTree (d d' : Disk) : Prop := ∀ loc, d'.isDirectory loc = d.isDirectory loc

theorem SameTree.refl (d : Disk) : d.SameTree d := fun _ => rfl

theorem SameTree.trans {a b c : Disk} (h : a.SameTree b) (h' : b.SameTree c) : a.SameTree c :=
  fun loc => (h' loc).trans (h loc)

theorem SameTree.directories {d d' : Disk} (same : d.SameTree d') (loc : Location)
    (there : d.isDirectory loc = true) : d'.isDirectory loc = true :=
  (same loc).trans there

theorem SameTree.keeps {d d' : Disk} (same : d.SameTree d')
    (wellFormed : d.WellFormed → d'.WellFormed) : d.Keeps d' :=
  ⟨wellFormed, same.directories⟩

/-! ### Files -/

theorem read?_set_file (d : Disk) (loc other : Location) (text : String) :
    (d.set loc (.file text)).read? other = if other = loc then some text else d.read? other := by
  by_cases same : other = loc <;> simp [read?, same]

theorem read?_set_directory (d : Disk) (loc other : Location) :
    (d.set loc .directory).read? other = if other = loc then none else d.read? other := by
  by_cases same : other = loc <;> simp [read?, same]

theorem read?_erase (d : Disk) (loc other : Location) :
    (d.erase loc).read? other = if other = loc then none else d.read? other := by
  by_cases same : other = loc <;> simp [read?, same]

theorem isDirectory_iff {d : Disk} {loc : Location} :
    d.isDirectory loc = true ↔ Path.isFixed loc = true ∨ d.node? loc = some .directory := by
  simp [isDirectory]

theorem not_directory_of_isFile {d : Disk} {loc : Location} (h : d.isFile loc = true) :
    d.node? loc ≠ some .directory := by
  obtain ⟨text, found⟩ := node?_of_isFile h
  simp [found]

theorem not_directory_node? {d : Disk} {loc : Location} (h : d.isDirectory loc = false) :
    d.node? loc ≠ some .directory := by
  intro there
  rw [isDirectory_iff.2 (.inr there)] at h
  cases h

theorem erase_sameTree {d : Disk} {loc : Location} (h : d.node? loc ≠ some .directory) :
    d.SameTree (d.erase loc) := by
  intro other
  rw [Bool.eq_iff_iff, isDirectory_iff, isDirectory_iff, node?_erase]
  by_cases same : other = loc
  · rw [same, if_pos rfl]
    simp [h]
  · rw [if_neg same]

theorem set_file_sameTree {d : Disk} {loc : Location} (free : d.isDirectory loc = false)
    (text : String) : d.SameTree (d.set loc (.file text)) := by
  intro other
  rw [Bool.eq_iff_iff, isDirectory_iff, isDirectory_iff, node?_set]
  by_cases same : other = loc
  · rw [same, if_pos rfl]
    simp [not_directory_node? free]
  · rw [if_neg same]

theorem erase_keeps {d : Disk} {loc : Location} (h : d.node? loc ≠ some .directory) :
    d.Keeps (d.erase loc) :=
  (erase_sameTree h).keeps fun wf => wf.erase loc

theorem removeFile?_some {d d' : Disk} {loc : Location} (h : d.removeFile? loc = some d') :
    d.isFile loc = true ∧ d' = d.erase loc := by
  unfold removeFile? at h
  split at h
  · next file =>
    cases h
    exact ⟨file, rfl⟩
  · cases h

theorem write?_some {d d' : Disk} {loc : Location} {text : String}
    (h : d.write? loc text = some d') :
    d.isDirectory loc = false ∧ d' = d.set loc (.file text) := by
  unfold write? at h
  split at h
  · cases h
  · next free =>
    cases h
    simp only [Bool.or_eq_true, not_or, Bool.not_eq_true] at free
    exact ⟨free.1, rfl⟩

theorem write?_keeps {d d' : Disk} {loc : Location} {text : String}
    (canonical : Path.Canonical loc) (h : d.write? loc text = some d') : d.Keeps d' := by
  obtain ⟨free, rfl⟩ := write?_some h
  exact (set_file_sameTree free text).keeps fun wf => wf.set canonical _

/-! ### Directories -/

theorem makeDirectory?_some {d d' : Disk} {loc : Location} (h : d.makeDirectory? loc = some d') :
    d'.isDirectory loc = true ∧ (d' = d ∨ d.isFile loc = false ∧ d' = d.set loc .directory) := by
  unfold makeDirectory? at h
  split at h
  · next there =>
    cases h
    exact ⟨there, .inl rfl⟩
  · split at h
    · cases h
    · next free =>
      cases h
      refine ⟨isDirectory_iff.2 (.inr ?_), .inr ⟨by simpa using free, rfl⟩⟩
      rw [node?_set, if_pos rfl]

theorem makeDirectory?_read? {d d' : Disk} {loc : Location} (h : d.makeDirectory? loc = some d')
    (other : Location) : d'.read? other = d.read? other := by
  rcases (makeDirectory?_some h).2 with rfl | ⟨free, rfl⟩
  · rfl
  · rw [read?_set_directory]
    split
    · next same =>
      subst same
      exact (Option.isNone_iff_eq_none.1 (by simpa [isFile] using free)).symm
    · rfl

theorem makeDirectory?_keeps {d d' : Disk} {loc : Location} (canonical : Path.Canonical loc)
    (h : d.makeDirectory? loc = some d') : d.Keeps d' := by
  rcases (makeDirectory?_some h).2 with rfl | ⟨-, rfl⟩
  · exact .refl _
  · refine ⟨fun wf => wf.set canonical _, fun other there => ?_⟩
    rw [isDirectory_iff] at there ⊢
    rw [node?_set]
    refine there.imp_right fun there => ?_
    split
    · rfl
    · exact there

end ScriptRegistrar.Disk
