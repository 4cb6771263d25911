import ScriptRegistrar.Sorting
import ScriptRegistrar.Text.Split

/-!
# The disk

A path is followed name by name, and every step needs a directory to start from. So a path may lead
nowhere, although its location is on the disk (`find?_eq_location` says that it leads nowhere else).
-/

namespace ScriptRegistrar

/-- Pieces put after each other. An absolute piece starts over. -/
structure Path where
  pieces : List String
deriving DecidableEq, Repr, Inhabited

/-- The names of the directories from the working directory, and then of the file or directory
itself. A location outside starts with the root or with two dots. -/
abbrev Location := List String

structure Route where
  start : Location := []
  names : List String := []
deriving DecidableEq, Repr, Inhabited

namespace Path

def ofText (text : String) : Path := ⟨[text]⟩

def join (base relative : Path) : Path := ⟨base.pieces ++ relative.pieces⟩

def child (base : Path) (name : String) : Path := ⟨base.pieces ++ [name]⟩

/-- The directory of a file. Its last piece may lead through directories too. -/
def parent (p : Path) : Path :=
  let names := Text.split '/' (p.pieces.getLastD "")
  ⟨p.pieces.dropLast ++ ["/".intercalate (names.dropLast ++ [""])]⟩

def isAbsolute (piece : String) : Bool := piece.toList.head? == some '/'

def pushText (text piece : String) : String :=
  if isAbsolute piece || text == "" then piece
  else if text.toList.getLast? == some '/' then text ++ piece
  else text ++ "/" ++ piece

def text (p : Path) : String := p.pieces.foldl pushText ""

/-- A name that leads nowhere. -/
def isIdle (name : String) : Bool := name == "" || name == "."

/-- The path in one piece, without idle names at the end. A first dot and the root stay. -/
def trimmed (p : Path) : Path :=
  match Text.split '/' p.text with
  | [] => ofText p.text
  | first :: rest =>
    match (rest.reverse.dropWhile isIdle).reverse with
    | [] => ofText (if isAbsolute p.text then "/" else first)
    | kept => ofText ("/".intercalate (first :: kept))

/-! ### Where a path leads -/

def root : Location := ["/"]

/-- Whether a location is the root, the working directory or one of those above it. -/
def isFixed (location : Location) : Bool := location == root || location.all (· == "..")

def up (location : Location) : Location :=
  if location = root then root
  else if isFixed location then location ++ [".."]
  else location.dropLast

def enter (location : Location) (name : String) : Location :=
  if isIdle name then location else if name = ".." then up location else location ++ [name]

def extend (route : Route) (piece : String) : Route :=
  if isAbsolute piece then ⟨root, Text.split '/' piece⟩
  else ⟨route.start, route.names ++ Text.split '/' piece⟩

def route (p : Path) : Route := p.pieces.foldl extend {}

def location (p : Path) : Location := p.route.names.foldl enter p.route.start

/-- A name that leads one step down. -/
def ProperName (name : String) : Prop :=
  name ≠ "" ∧ name ≠ "." ∧ name ≠ ".." ∧ '/' ∉ name.toList

theorem enter_properName {name : String} (h : ProperName name) (location : Location) :
    enter location name = location ++ [name] := by
  obtain ⟨ne, notDot, notDots, -⟩ := h
  simp [enter, isIdle, ne, notDot, notDots]

theorem extend_properName {name : String} (h : ProperName name) (route : Route) :
    extend route name = ⟨route.start, route.names ++ [name]⟩ := by
  obtain ⟨-, -, -, noSlash⟩ := h
  have absolute : isAbsolute name = false := by
    cases hn : name.toList with
    | nil => simp [isAbsolute, hn]
    | cons c cs =>
      simp only [isAbsolute, hn, List.head?_cons, beq_eq_false_iff_ne, ne_eq, Option.some.injEq]
      rintro rfl
      exact noSlash (by simp [hn])
  have piece : Text.split '/' name = [name] := by
    simp [Text.split, Text.splitChars_of_notMem noSlash]
  simp [extend, absolute, piece]

theorem route_join_properNames (base : Path) {names : List String}
    (h : ∀ name ∈ names, ProperName name) :
    (base.join ⟨names⟩).route = ⟨base.route.start, base.route.names ++ names⟩ := by
  simp only [join, route, List.foldl_append]
  generalize base.pieces.foldl extend {} = way
  induction names generalizing way with
  | nil => simp
  | cons name names ih =>
    rw [List.foldl_cons, extend_properName (h name (by simp)),
      ih fun n hn => h n (List.mem_cons_of_mem _ hn)]
    simp

theorem foldl_enter_properNames {names : List String} (h : ∀ name ∈ names, ProperName name)
    (location : Location) : names.foldl enter location = location ++ names := by
  induction names generalizing location with
  | nil => simp
  | cons name names ih =>
    rw [List.foldl_cons, enter_properName (h name (by simp)),
      ih fun n hn => h n (List.mem_cons_of_mem _ hn)]
    simp

theorem location_join_properNames (base : Path) {names : List String}
    (h : ∀ name ∈ names, ProperName name) :
    (base.join ⟨names⟩).location = base.location ++ names := by
  simp only [location, route_join_properNames base h, List.foldl_append,
    foldl_enter_properNames h]

end Path

/-! ### Files and directories -/

inductive Node where
  | file (text : String)
  | directory
deriving DecidableEq, Repr, Inhabited

structure Disk where
  nodes : List (Location × Node)
deriving Repr, Inhabited

namespace Disk

def empty : Disk := ⟨[]⟩

def node? (d : Disk) (loc : Location) : Option Node := d.nodes.lookup loc

def set (d : Disk) (loc : Location) (node : Node) : Disk :=
  ⟨(loc, node) :: d.nodes.filter (·.1 ≠ loc)⟩

def erase (d : Disk) (loc : Location) : Disk := ⟨d.nodes.filter (·.1 ≠ loc)⟩

def read? (d : Disk) (loc : Location) : Option String :=
  match d.node? loc with
  | some (.file text) => some text
  | _ => none

def isFile (d : Disk) (loc : Location) : Bool := (d.read? loc).isSome

def isDirectory (d : Disk) (loc : Location) : Bool :=
  Path.isFixed loc || d.node? loc == some .directory

def step? (d : Disk) (loc : Location) (name : String) : Option Location :=
  if d.isDirectory loc then some (Path.enter loc name) else none

/-- Where a path leads. The empty path leads nowhere. -/
def find? (d : Disk) (p : Path) : Option Location :=
  if p.text = "" then none else p.route.names.foldlM d.step? p.route.start

def readAt? (d : Disk) (p : Path) : Option String := (d.find? p).bind d.read?

def makeDirectory? (d : Disk) (loc : Location) : Option Disk :=
  if d.isDirectory loc then some d else if d.isFile loc then none else some (d.set loc .directory)

/-- Makes every directory along some names, up to the first that cannot be made. -/
def makeAlong (d : Disk) (loc : Location) : List String → Disk × Bool
  | [] => (d, true)
  | name :: names =>
    match d.makeDirectory? (Path.enter loc name) with
    | some d => d.makeAlong (Path.enter loc name) names
    | none => (d, false)

/-- Makes a directory and those on the way to it. What was made before a failure stays. -/
def makeDirectories (d : Disk) (p : Path) : Disk × Bool := d.makeAlong p.route.start p.route.names

def write? (d : Disk) (loc : Location) (text : String) : Option Disk :=
  if d.isDirectory loc || !d.isDirectory loc.dropLast then none else some (d.set loc (.file text))

def removeFile? (d : Disk) (loc : Location) : Option Disk :=
  if d.isFile loc then some (d.erase loc) else none

def files (d : Disk) : List (Location × String) :=
  sortOn Prod.fst <| d.nodes.filterMap fun
    | (loc, .file text) => some (loc, text)
    | (_, .directory) => none

/-- The files below a directory in the order of a walk, located from that directory. -/
def filesBelow (d : Disk) (directory : Location) : List Location :=
  d.files.filterMap fun (loc, _) =>
    match Text.stripPrefix? directory loc with
    | some (name :: rest) => if Path.isFixed [name] then none else some (name :: rest)
    | _ => none

def filesUnder (d : Disk) (p : Path) : List Location :=
  match d.find? p with
  | some loc => d.filesBelow loc
  | none => []

theorem find?_eq_location {d : Disk} {p : Path} {loc : Location} (h : d.find? p = some loc) :
    loc = p.location := by
  have walk : ∀ names start, List.foldlM d.step? start names = some loc →
      loc = names.foldl Path.enter start := by
    intro names
    induction names with
    | nil => simp
    | cons name names ih =>
      intro start h
      rw [List.foldlM_cons] at h
      obtain ⟨next, hnext, rest⟩ := Option.bind_eq_some_iff.1 h
      obtain ⟨-, rfl⟩ : d.isDirectory start = true ∧ Path.enter start name = next := by
        simpa [step?] using hnext
      exact ih _ rest
  rw [find?] at h
  split at h
  · simp at h
  · exact walk _ _ h

/-! ### Look-up after a change -/

theorem lookup_filter_ne {nodes : List (Location × Node)} {a b : Location} :
    (nodes.filter (·.1 ≠ a)).lookup b = if b = a then none else nodes.lookup b := by
  induction nodes with
  | nil => simp
  | cons entry nodes ih =>
    obtain ⟨c, node⟩ := entry
    by_cases hc : c = a
    · subst hc
      by_cases hb : b = c
      · simpa [hb] using ih
      · simpa [List.lookup_cons, hb, beq_false_of_ne hb] using ih
    · by_cases hb : b = c
      · subst hb
        simp [hc]
      · simpa [hc, List.lookup_cons, beq_false_of_ne hb] using ih

@[simp]
theorem node?_set (d : Disk) (a b : Location) (node : Node) :
    (d.set a node).node? b = if b = a then some node else d.node? b := by
  by_cases h : b = a
  · simp [set, node?, h]
  · have := @lookup_filter_ne d.nodes a b
    simp only [h, if_false] at this ⊢
    simpa [set, node?, List.lookup_cons, beq_false_of_ne h] using this

@[simp]
theorem node?_erase (d : Disk) (a b : Location) :
    (d.erase a).node? b = if b = a then none else d.node? b :=
  lookup_filter_ne

end Disk

end ScriptRegistrar
