import Mathlib.Data.List.Induction
import ScriptRegistrar.Proofs.Disk.WellFormed

namespace ScriptRegistrar.Disk

/-- The path can be followed, and leads to a directory. -/
structure Reaches (d : Disk) (p : Path) : Prop where
  found : d.find? p = some p.location
  directory : d.isDirectory p.location = true

/-- The steps along some names can all be made, and the last leads to a directory. -/
def Walks (d : Disk) (start : Location) (names : List String) : Prop :=
  names.foldlM d.step? start = some (names.foldl Path.enter start) ∧
    d.isDirectory (names.foldl Path.enter start) = true

theorem walks_nil {d : Disk} {start : Location} :
    d.Walks start [] ↔ d.isDirectory start = true :=
  and_iff_right rfl

theorem walks_cons {d : Disk} {start : Location} {name : String} {names : List String} :
    d.Walks start (name :: names) ↔
      d.isDirectory start = true ∧ d.Walks (Path.enter start name) names := by
  unfold Walks
  rw [List.foldlM_cons, List.foldl_cons, step?]
  by_cases there : d.isDirectory start = true
  · simp [there]
  · simp [there]

theorem walks_append {d : Disk} {start : Location} {names more : List String} :
    d.Walks start (names ++ more) ↔
      d.Walks start names ∧ d.Walks (names.foldl Path.enter start) more := by
  induction names generalizing start with
  | nil =>
    rw [List.nil_append, List.foldl_nil, walks_nil]
    refine ⟨fun walks => ⟨?_, walks⟩, And.right⟩
    cases more with
    | nil => exact walks_nil.1 walks
    | cons name more => exact (walks_cons.1 walks).1
  | cons name names ih =>
    rw [List.cons_append, walks_cons, walks_cons, ih, and_assoc, List.foldl_cons]

theorem Walks.mono {d d' : Disk}
    (directories : ∀ loc, d.isDirectory loc = true → d'.isDirectory loc = true)
    {start : Location} {names : List String} (h : d.Walks start names) : d'.Walks start names := by
  induction names generalizing start with
  | nil => exact walks_nil.2 (directories _ (walks_nil.1 h))
  | cons name names ih =>
    obtain ⟨there, later⟩ := walks_cons.1 h
    exact walks_cons.2 ⟨directories _ there, ih later⟩

theorem Keeps.leads {d d' : Disk} (keeps : d.Keeps d') {p : Path} {loc : Location}
    (h : d.find? p = some loc) : d'.find? p = some loc := by
  have walk : ∀ names start, List.foldlM d.step? start names = some loc →
      List.foldlM d'.step? start names = some loc := by
    intro names
    induction names with
    | nil => exact fun _ h => h
    | cons name names ih =>
      intro start h
      rw [List.foldlM_cons] at h ⊢
      obtain ⟨next, stepped, rest⟩ := Option.bind_eq_some_iff.1 h
      refine Option.bind_eq_some_iff.2 ⟨next, ?_, ih next rest⟩
      unfold step? at stepped ⊢
      split at stepped
      · next there => rw [if_pos (keeps.directories _ there), stepped]
      · cases stepped
  unfold find? at h ⊢
  split at h
  · cases h
  · next some =>
    rw [if_neg some]
    exact walk _ _ h

theorem reaches_of_walks {d : Disk} {p : Path} (text : p.text ≠ "")
    (h : d.Walks p.route.start p.route.names) : d.Reaches p := by
  refine ⟨?_, h.2⟩
  rw [find?, if_neg text]
  exact h.1

theorem Reaches.walks {d : Disk} {p : Path} (h : d.Reaches p) :
    d.Walks p.route.start p.route.names := by
  have found := h.found
  unfold find? at found
  split at found
  · cases found
  · exact ⟨found, h.directory⟩

theorem Keeps.reaches {d d' : Disk} (keeps : d.Keeps d') {p : Path} (h : d.Reaches p) :
    d'.Reaches p := by
  refine reaches_of_walks (fun none => ?_) (h.walks.mono keeps.directories)
  have found := h.found
  rw [find?, if_pos none] at found
  cases found

theorem text_child {p : Path} {name : String} (named : name ≠ "") : (p.child name).text ≠ "" := by
  rw [Path.text, Path.child, List.foldl_append]
  change Path.pushText _ name ≠ ""
  unfold Path.pushText
  split
  · exact named
  · split <;> simp [named]

theorem Reaches.find?_child {d : Disk} {p : Path} (h : d.Reaches p) {name : String}
    (proper : Path.ProperName name) : d.find? (p.child name) = some (p.location ++ [name]) := by
  have route : (p.join ⟨[name]⟩).route = ⟨p.route.start, p.route.names ++ [name]⟩ :=
    Path.route_join_properNames p (by simpa using proper)
  rw [find?, if_neg (text_child proper.1), show p.child name = p.join ⟨[name]⟩ by rfl, route,
    List.foldlM_append, h.walks.1]
  change List.foldlM d.step? p.location [name] = _
  rw [List.foldlM_cons, step?, if_pos h.directory, Path.enter_properName proper]
  rfl

/-! ### Making directories -/

theorem makeAlong_read? (d : Disk) (loc : Location) (names : List String) (other : Location) :
    (d.makeAlong loc names).1.read? other = d.read? other := by
  induction names generalizing d loc with
  | nil => rfl
  | cons name names ih =>
    rw [makeAlong]
    split
    · next made => rw [ih, makeDirectory?_read? made]
    · rfl

theorem makeAlong_keeps {d : Disk} {loc : Location} {names : List String}
    (canonical : Path.Canonical loc) (noSlash : ∀ name ∈ names, '/' ∉ name.toList) :
    d.Keeps (d.makeAlong loc names).1 := by
  induction names generalizing d loc with
  | nil => exact .refl d
  | cons name names ih =>
    rw [makeAlong]
    have next := canonical.enter (noSlash name List.mem_cons_self)
    split
    · next made =>
      exact (makeDirectory?_keeps next made).trans
        (ih next fun other member => noSlash other (List.mem_cons_of_mem _ member))
    · exact .refl d

theorem makeAlong_walks {d d' : Disk} {loc : Location} {names : List String}
    (canonical : Path.Canonical loc) (noSlash : ∀ name ∈ names, '/' ∉ name.toList)
    (start : d.isDirectory loc = true) (h : d.makeAlong loc names = (d', true)) :
    d'.Walks loc names := by
  induction names generalizing d loc with
  | nil =>
    cases h
    exact walks_nil.2 start
  | cons name names ih =>
    have whole := makeAlong_keeps (d := d) canonical noSlash
    rw [h] at whole
    rw [makeAlong] at h
    split at h
    · next made =>
      refine walks_cons.2 ⟨whole.directories _ start, ?_⟩
      exact ih (canonical.enter (noSlash name List.mem_cons_self))
        (fun other member => noSlash other (List.mem_cons_of_mem _ member))
        (makeDirectory?_some made).1 h
    · cases h

theorem makeDirectories_read? (d : Disk) (p : Path) (other : Location) :
    (d.makeDirectories p).1.read? other = d.read? other :=
  makeAlong_read? ..

theorem makeDirectories_keeps (d : Disk) (p : Path) : d.Keeps (d.makeDirectories p).1 :=
  makeAlong_keeps (.of_fixed (Path.route_sound p).start) (Path.route_sound p).names

theorem makeDirectories_walks {d d' : Disk} {p : Path} (h : d.makeDirectories p = (d', true)) :
    d'.Walks p.route.start p.route.names := by
  have sound := Path.route_sound p
  exact makeAlong_walks (.of_fixed sound.start) sound.names (isDirectory_iff.2 (.inl sound.start)) h

theorem route_parent {p : Path} {name : String} (proper : Path.ProperName name) :
    (p.child name).parent.route = ⟨p.route.start, p.route.names ++ [""]⟩ := by
  have piece : Text.split '/' name = [name] := by
    simp [Text.split, Text.splitChars_of_notMem proper.2.2.2]
  have parent : (p.child name).parent = p.child "" := by
    simp [Path.parent, Path.child, piece]
  rw [parent, Path.route, Path.child, List.foldl_append]
  rfl

theorem reaches_of_parent {d : Disk} {p : Path} {name : String} (text : p.text ≠ "")
    (proper : Path.ProperName name)
    (h : d.Walks (p.child name).parent.route.start (p.child name).parent.route.names) :
    d.Reaches p := by
  rw [route_parent proper] at h
  exact reaches_of_walks text (walks_append.1 h).1

/-! ### Paths that never climb -/

/-- Everything on the disk lies in a directory. -/
def Closed (d : Disk) : Prop := ∀ entry ∈ d.nodes, d.isDirectory entry.1.dropLast = true

instance (d : Disk) : Decidable d.Closed := inferInstanceAs (Decidable (∀ entry ∈ d.nodes, _))

theorem Closed.directory_above {d : Disk} (closed : d.Closed) (wf : d.WellFormed)
    {loc rel : Location} (below : rel ≠ []) {node : Node}
    (there : d.node? (loc ++ rel) = some node) : d.isDirectory loc = true := by
  induction rel using List.reverseRecOn generalizing node with
  | nil => exact absurd rfl below
  | append_singleton rel name ih =>
    have parent := closed _ (wf.mem_nodes.2 there)
    rw [← List.append_assoc, List.dropLast_concat] at parent
    by_cases top : rel = []
    · rwa [top, List.append_nil] at parent
    · rcases isDirectory_iff.1 parent with fixed | present
      · refine isDirectory_iff.2 (.inl (Path.isFixed_iff.2 ?_))
        rcases Path.isFixed_iff.1 fixed with root | dots
        · rcases List.append_eq_singleton_iff.1 root with ⟨rfl, -⟩ | ⟨-, rfl⟩
          · exact .inr (by simp)
          · exact absurd rfl top
        · exact .inr fun name member => dots name (List.mem_append_left _ member)
      · exact ih top present

theorem prefix_foldl_enter {names : List String} (noClimb : ".." ∉ names) (start : Location) :
    start <+: names.foldl Path.enter start := by
  induction names generalizing start with
  | nil => exact List.prefix_rfl
  | cons name names ih =>
    rw [List.mem_cons, not_or] at noClimb
    refine List.IsPrefix.trans ?_ (ih noClimb.2 _)
    unfold Path.enter
    rw [if_neg (Ne.symm noClimb.1)]
    split
    · exact List.prefix_rfl
    · exact List.prefix_append _ _

theorem walks_of_directories {d : Disk} {names : List String} (noClimb : ".." ∉ names)
    {start : Location}
    (above : ∀ loc, loc <+: names.foldl Path.enter start → d.isDirectory loc = true) :
    d.Walks start names := by
  induction names generalizing start with
  | nil => exact walks_nil.2 (above _ List.prefix_rfl)
  | cons name names ih =>
    refine walks_cons.2 ⟨above _ (prefix_foldl_enter noClimb start), ?_⟩
    exact ih (fun member => noClimb (List.mem_cons_of_mem _ member)) above

theorem Closed.reaches {d : Disk} (closed : d.Closed) (wf : d.WellFormed) {p : Path}
    (text : p.text ≠ "") (noClimb : ".." ∉ p.route.names) {rel : Location} (below : rel ≠ [])
    {node : Node} (there : d.node? (p.location ++ rel) = some node) : d.Reaches p := by
  refine reaches_of_walks text (walks_of_directories noClimb ?_)
  rintro loc ⟨down, same⟩
  have there' : d.node? (loc ++ (down ++ rel)) = some node := by
    rw [← List.append_assoc, same]
    exact there
  exact closed.directory_above wf (by simp [below]) there'

end ScriptRegistrar.Disk
