import Mathlib.Data.List.Basic
import Mathlib.Data.List.Induction
import ScriptRegistrar.Disk

namespace ScriptRegistrar

namespace Path

instance : DecidablePred ProperName := fun _ => inferInstanceAs (Decidable (_ ∧ _ ∧ _ ∧ _))

def Canonical (loc : Location) : Prop :=
  ∃ base names, isFixed base = true ∧ (∀ name ∈ names, ProperName name) ∧ loc = base ++ names

theorem isFixed_iff {loc : Location} :
    isFixed loc = true ↔ loc = root ∨ ∀ name ∈ loc, name = ".." := by
  simp [isFixed]

theorem isFixed_of_mem {loc : Location} {name : String} (h : isFixed loc = true)
    (member : name ∈ loc) : isFixed [name] = true := by
  rcases isFixed_iff.1 h with rfl | dots
  · rw [List.mem_singleton.1 member]
    rfl
  · rw [dots name member]
    rfl

theorem ProperName.not_fixed {name : String} (h : ProperName name) : isFixed [name] = false := by
  obtain ⟨-, -, notDots, noSlash⟩ := h
  rw [← Bool.not_eq_true, isFixed_iff]
  rintro (same | dots)
  · rw [List.cons.inj same |>.1] at noSlash
    exact noSlash (by decide)
  · exact notDots (dots name List.mem_cons_self)

theorem Canonical.of_fixed {loc : Location} (h : isFixed loc = true) : Canonical loc :=
  ⟨loc, [], h, by simp, by simp⟩

theorem Canonical.of_properNames {loc : Location} (h : ∀ name ∈ loc, ProperName name) :
    Canonical loc :=
  ⟨[], loc, rfl, h, rfl⟩

theorem Canonical.up {loc : Location} (h : Canonical loc) : Canonical (up loc) := by
  unfold Path.up
  split
  · next atRoot => exact .of_fixed rfl
  · next notRoot =>
    split
    · next fixed =>
      -- At the working directory or above it, the way up is one more pair of dots.
      refine .of_fixed (isFixed_iff.2 (.inr ?_))
      have dots := (isFixed_iff.1 fixed).resolve_left notRoot
      intro name member
      rcases List.mem_append.1 member with old | new
      · exact dots name old
      · exact List.mem_singleton.1 new
    · next free =>
      obtain ⟨base, names, fixed, proper, rfl⟩ := h
      have some : names ≠ [] := by
        rintro rfl
        rw [List.append_nil] at free
        exact free fixed
      rw [List.dropLast_append_of_ne_nil some]
      exact ⟨base, _, fixed, fun name member => proper name (List.dropLast_subset _ member), rfl⟩

theorem Canonical.enter {loc : Location} {name : String} (h : Canonical loc)
    (noSlash : '/' ∉ name.toList) : Canonical (enter loc name) := by
  unfold Path.enter
  split
  · exact h
  · next named =>
    split
    · exact h.up
    · next notDots =>
      obtain ⟨base, names, fixed, proper, rfl⟩ := h
      simp only [isIdle, Bool.or_eq_true, beq_iff_eq, not_or] at named
      refine ⟨base, names ++ [name], fixed, ?_, List.append_assoc ..⟩
      intro other member
      rcases List.mem_append.1 member with old | new
      · exact proper other old
      · rw [List.mem_singleton.1 new]
        exact ⟨named.1, named.2, notDots, noSlash⟩

/-- A route starts where every disk has a directory, and no name on it holds a slash. -/
structure Sound (route : Route) : Prop where
  start : isFixed route.start = true
  names : ∀ name ∈ route.names, '/' ∉ name.toList

theorem route_sound (p : Path) : Sound p.route := by
  have extended : ∀ (pieces : List String) (way : Route), Sound way →
      Sound (pieces.foldl extend way) := by
    intro pieces
    induction pieces with
    | nil => exact fun _ sound => sound
    | cons piece pieces ih =>
      intro way sound
      refine ih _ ?_
      unfold extend
      split
      · exact ⟨rfl, fun name member => Text.notMem_split member⟩
      · refine ⟨sound.start, fun name member => ?_⟩
        rcases List.mem_append.1 member with old | new
        · exact sound.names name old
        · exact Text.notMem_split new
  exact extended p.pieces {} ⟨rfl, by simp⟩

theorem Canonical.foldl_enter {names : List String} (noSlash : ∀ name ∈ names, '/' ∉ name.toList)
    {loc : Location} (h : Canonical loc) : Canonical (names.foldl Path.enter loc) := by
  induction names generalizing loc with
  | nil => exact h
  | cons name names ih =>
    exact ih (fun other member => noSlash other (List.mem_cons_of_mem _ member))
      (h.enter (noSlash name List.mem_cons_self))

theorem location_canonical (p : Path) : Canonical p.location :=
  .foldl_enter (route_sound p).names (.of_fixed (route_sound p).start)

/-- What lies below a location, but not among those above the working directory, has proper names
from there on. -/
theorem Canonical.below {loc : Location} {name : String} {rest : List String}
    (h : Canonical (loc ++ name :: rest)) (free : isFixed [name] = false) :
    ∀ other ∈ name :: rest, ProperName other := by
  obtain ⟨base, names, fixed, proper, same⟩ := h
  rcases List.append_eq_append_iff.1 same with ⟨more, rfl, later⟩ | ⟨down, -, later⟩
  · cases more with
    | nil => rwa [later]
    | cons first more =>
      rw [List.cons_append] at later
      obtain ⟨rfl, -⟩ := List.cons.inj later
      have climbs := isFixed_of_mem fixed (List.mem_append_right loc List.mem_cons_self)
      rw [free] at climbs
      cases climbs
  · intro other member
    exact proper other (later ▸ List.mem_append_right down member)

theorem location_join_ofText (base : Path) (text : String) (relative : isAbsolute text = false)
    (proper : ∀ name ∈ Text.split '/' text, ProperName name) :
    (base.join (ofText text)).location = base.location ++ Text.split '/' text := by
  have extended : (base.join (ofText text)).route = extend base.route text := by
    rw [route, join, ofText, List.foldl_append]
    rfl
  rw [location, extended, extend, if_neg (by simp [relative]), List.foldl_append,
    foldl_enter_properNames proper]
  rfl

theorem getLastD_append {loc rel : Location} (some : rel ≠ []) :
    (loc ++ rel).getLastD "" = rel.getLastD "" := by
  rw [List.getLastD_eq_getLast?, List.getLast?_append_of_ne_nil _ some,
    ← List.getLastD_eq_getLast?]

/-! ### The directory of a file -/

theorem isAbsolute_iff {piece : String} :
    isAbsolute piece = true ↔ ∃ rest, rest ≠ [] ∧ Text.split '/' piece = "" :: rest := by
  unfold isAbsolute Text.split
  cases piece.toList with
  | nil => simp [Text.splitChars]
  | cons c cs =>
    by_cases slash : c = '/'
    · simp [Text.splitChars, slash, Text.splitChars_ne_nil]
    · cases pieces : Text.splitChars '/' cs with
      | nil => exact absurd pieces (Text.splitChars_ne_nil _ _)
      | cons first rest => simp [Text.splitChars, slash, pieces]

/-- The names that are walked to a file, and to its directory, differ in the last one only. -/
theorem route_parent_eq {p : Path} (pieced : p.pieces ≠ []) :
    ∃ start names name, p.route = ⟨start, names ++ [name]⟩ ∧
      p.parent.route = ⟨start, names ++ [""]⟩ := by
  obtain ⟨front, last, pieces⟩ : ∃ front last, p.pieces = front ++ [last] :=
    ⟨_, _, (List.dropLast_append_getLast pieced).symm⟩
  obtain ⟨dirs, name, names⟩ : ∃ dirs name, Text.split '/' last = dirs ++ [name] :=
    ⟨_, _, (List.dropLast_append_getLast (Text.split_ne_nil '/' last)).symm⟩
  have parent : p.parent = ⟨front ++ ["/".intercalate (dirs ++ [""])]⟩ := by
    simp [Path.parent, pieces, names]
  have above : Text.split '/' ("/".intercalate (dirs ++ [""])) = dirs ++ [""] := by
    refine Text.split_intercalate (by simp) fun piece member => ?_
    rcases List.mem_append.1 member with old | new
    · exact Text.notMem_split (names ▸ List.mem_append_left [name] old)
    · rw [List.mem_singleton.1 new]
      exact List.not_mem_nil
  have starts : ∀ other : String,
      (∃ rest, rest ≠ [] ∧ dirs ++ [other] = "" :: rest) ↔ dirs.head? = some "" := by
    intro other
    cases dirs with
    | nil => simp
    | cons first dirs => simp
  have absolute : isAbsolute ("/".intercalate (dirs ++ [""])) = isAbsolute last := by
    rw [Bool.eq_iff_iff, isAbsolute_iff, isAbsolute_iff, above, names, starts, starts]
  rw [route, pieces, List.foldl_append, parent, route, List.foldl_append]
  dsimp only [List.foldl_cons, List.foldl_nil]
  unfold extend
  rw [absolute, above, names]
  split
  · exact ⟨_, dirs, name, rfl, rfl⟩
  · rw [← List.append_assoc, ← List.append_assoc]
    exact ⟨_, _, name, rfl, rfl⟩

theorem pushText_eq_empty {text piece : String} (h : pushText text piece = "") :
    text = "" ∧ piece = "" := by
  unfold pushText at h
  split at h
  · next alone =>
    subst h
    simpa [isAbsolute] using alone
  · split at h
    · simpa using h
    · simp at h

/-- A path without text stays in the working directory. -/
theorem location_of_text_eq_empty {p : Path} (h : p.text = "") : p.location = [] := by
  obtain ⟨pieces⟩ := p
  induction pieces using List.reverseRecOn with
  | nil => rfl
  | append_singleton pieces piece ih =>
    rw [text, List.foldl_append] at h
    obtain ⟨front, rfl⟩ := pushText_eq_empty h
    have route : Path.route ⟨pieces ++ [""]⟩ =
        ⟨(Path.route ⟨pieces⟩).start, (Path.route ⟨pieces⟩).names ++ [""]⟩ := by
      rw [Path.route, List.foldl_append]
      rfl
    rw [location, route, List.foldl_append]
    exact ih front

end Path

end ScriptRegistrar
